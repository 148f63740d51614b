import Switchboard.Aggregate.Root
import Switchboard.Proofs.Computation

namespace Switchboard

/-! Calls on a live entity, one after another. Whoever makes them goes on after one that has failed, with the
entity as that one has left it. -/

variable {σ : Type} {model : AggregateModel σ} {r next : Root σ} {s : Snapshot σ} {command : Signal}
  {events : List Signal} {messages : List EventMessage} {error : AggregateError} {u v : Supply}

open Switchboard.Computation

namespace Root

@[simp] theorem snapshot_restore (r : Root σ) (s : Snapshot σ) : (r.restore s).snapshot = s := rfl

/-! ## Past events -/

theorem play_ok (applied : r.snapshot.applyAll model events = .ok s) :
    play model events r = (.ok (), r.restore s) := by
  rw [play, get_bind, applied, ok_bind]
  rfl

theorem play_error (failed : r.snapshot.applyAll model events = .error error) :
    play model events r = (.error error, r) := by
  rw [play, get_bind, failed, error_bind]
  rfl

/-- All that a history can come to. -/
theorem play_cases (model : AggregateModel σ) (events : List Signal) (r : Root σ) :
    (∃ s, r.snapshot.applyAll model events = .ok s ∧ play model events r = (.ok (), r.restore s)) ∨
      ∃ error, r.snapshot.applyAll model events = .error error ∧ play model events r = (.error error, r) := by
  cases applied : r.snapshot.applyAll model events with
  | error error => exact .inr ⟨error, rfl, play_error applied⟩
  | ok s => exact .inl ⟨s, rfl, play_ok applied⟩

theorem play_ok_iff :
    play model events r = (.ok (), next) ↔
      ∃ s, r.snapshot.applyAll model events = .ok s ∧ next = r.restore s := by
  constructor
  · intro played
    obtain ⟨s, applied, done⟩ | ⟨error, -, failed⟩ := play_cases model events r
    · exact ⟨s, applied, congrArg Prod.snd (played.symm.trans done)⟩
    · cases played.symm.trans failed
  · rintro ⟨s, applied, rfl⟩
    exact play_ok applied

theorem play_error_iff :
    play model events r = (.error error, r) ↔ r.snapshot.applyAll model events = .error error := by
  refine ⟨fun played => ?_, play_error⟩
  obtain ⟨s, -, done⟩ | ⟨cause, failed, same⟩ := play_cases model events r
  · cases played.symm.trans done
  · cases played.symm.trans same
    exact failed

/-- Events before the one that cannot be applied have left no trace. -/
theorem play_failed (failed : play model events r = (.error error, next)) : next = r := by
  obtain ⟨s, -, done⟩ | ⟨cause, -, same⟩ := play_cases model events r
  · cases failed.symm.trans done
  · exact congrArg Prod.snd (failed.symm.trans same)

/-! ## Commands -/

theorem dispatch_undecided (decided : r.decide model command = .error error) :
    dispatch model command r u = ((.error error, r), u) := by
  rw [dispatch, get_bind, decided, error_bind]
  rfl

theorem dispatch_obstructed (decided : r.decide model command = .ok messages)
    (produced : produce model r.key.id command r.snapshot messages u = (.error error, v)) :
    dispatch model command r u = ((.error error, r), v) := by
  rw [dispatch, get_bind, decided, ok_bind, draw_bind, produced, error_bind]
  rfl

theorem dispatch_produced (decided : r.decide model command = .ok messages)
    (produced : produce model r.key.id command r.snapshot messages u = (.ok (events, s), v)) :
    dispatch model command r u =
      ((.ok events, { r.restore s with uncommitted := r.uncommitted ++ events }), v) := by
  rw [dispatch, get_bind, decided, ok_bind, draw_bind, produced, ok_bind]
  rfl

/-- All that a command can come to. -/
theorem dispatch_cases (model : AggregateModel σ) (r : Root σ) (command : Signal) (u : Supply) :
    (∃ error, dispatch model command r u = ((.error error, r), u)) ∨
      ∃ messages, r.decide model command = .ok messages ∧
        let made := produce model r.key.id command r.snapshot messages u
        (∃ error, dispatch model command r u = ((.error error, r), made.2)) ∨
          ∃ events last, made.1 = .ok (events, last) ∧ dispatch model command r u =
            ((.ok events, { r.restore last with uncommitted := r.uncommitted ++ events }), made.2) := by
  cases decided : r.decide model command with
  | error error => exact .inl ⟨error, dispatch_undecided decided⟩
  | ok messages =>
      rcases produced : produce model r.key.id command r.snapshot messages u with ⟨result, v⟩
      cases result with
      | error error => exact .inr ⟨messages, rfl, .inl ⟨error, by rw [produced, dispatch_obstructed decided produced]⟩⟩
      | ok made =>
          exact .inr ⟨messages, rfl, .inr ⟨made.1, made.2, by rw [produced],
            by rw [produced, dispatch_produced decided produced]⟩⟩

theorem dispatch_ok (dispatched : (dispatch model command r u).1 = (.ok events, next)) :
    ∃ messages last, r.decide model command = .ok messages ∧
      (produce model r.key.id command r.snapshot messages u).1 = .ok (events, last) ∧
      next = { r.restore last with uncommitted := r.uncommitted ++ events } := by
  obtain ⟨error, failed⟩ | ⟨messages, decided, ⟨error, failed⟩ | ⟨made, last, produced, done⟩⟩ :=
    dispatch_cases model r command u
  · cases dispatched.symm.trans (congrArg Prod.fst failed)
  · cases dispatched.symm.trans (congrArg Prod.fst failed)
  · cases dispatched.symm.trans (congrArg Prod.fst done)
    exact ⟨messages, last, decided, produced, rfl⟩

/-- The handler of a command that fails, and the events before the one that cannot be applied, have left no
trace. -/
theorem dispatch_failed (failed : (dispatch model command r u).1 = (.error error, next)) : next = r := by
  obtain ⟨cause, same⟩ | ⟨messages, -, ⟨cause, same⟩ | ⟨made, last, -, done⟩⟩ := dispatch_cases model r command u
  · exact congrArg Prod.snd (failed.symm.trans (congrArg Prod.fst same))
  · exact congrArg Prod.snd (failed.symm.trans (congrArg Prod.fst same))
  · cases failed.symm.trans (congrArg Prod.fst done)

end Root

/-! ## Calls of all kinds -/

inductive RootCall (σ : Type) where
  | dispatch (command : Signal)
  | play (events : List Signal)
  | restore (s : Snapshot σ)
  | commit

inductive RootAnswer where
  /-- The command has been handled, and these are the events of it. -/
  | produced (events : List Signal)
  | played
  | restored
  /-- These are the events that had been kept. -/
  | taken (events : List Signal)
  | failed (error : AggregateError)

namespace RootAnswer

/-- The events of a command that has been handled. -/
def produces : RootAnswer → List Signal
  | .produced events => events
  | .played | .restored | .taken _ | .failed _ => []

/-- The events that are handed over. -/
def takes : RootAnswer → List Signal
  | .taken events => events
  | .produced _ | .played | .restored | .failed _ => []

end RootAnswer

namespace Root

def serve (model : AggregateModel σ) : RootCall σ → StateT (Root σ) (StateM Supply) RootAnswer
  | .dispatch command => do
      match ← (dispatch model command).run with
      | .ok events => return .produced events
      | .error error => return .failed error
  | .play events => do
      match ← modifyGet (play model events).run.run with
      | .ok () => return .played
      | .error error => return .failed error
  | .restore s => do
      modify (·.restore s)
      return .restored
  | .commit => return .taken (← modifyGet commit)

theorem serve_dispatch_ok (dispatched : (dispatch model command r u).1 = (.ok events, next)) :
    (serve model (.dispatch command) r u).1 = (.produced events, next) := by
  simp only [serve, bind_beside, ExceptT.run, dispatched, pure_beside]

theorem serve_dispatch_error (dispatched : (dispatch model command r u).1 = (.error error, next)) :
    (serve model (.dispatch command) r u).1 = (.failed error, next) := by
  simp only [serve, bind_beside, ExceptT.run, dispatched, pure_beside]

theorem serve_play_ok (played : play model events r = (.ok (), next)) :
    (serve model (.play events) r u).1 = (.played, next) := by
  simp only [serve, bind_beside, modifyGet_beside, ExceptT.run, StateT.run, played, pure_beside]

theorem serve_play_error (played : play model events r = (.error error, next)) :
    (serve model (.play events) r u).1 = (.failed error, next) := by
  simp only [serve, bind_beside, modifyGet_beside, ExceptT.run, StateT.run, played, pure_beside]

/-- The answers to calls in turn. -/
def serveAll (model : AggregateModel σ) (calls : List (RootCall σ)) :
    StateT (Root σ) (StateM Supply) (List RootAnswer) :=
  calls.mapM (serve model)

theorem serveAll_cons (call : RootCall σ) (rest : List (RootCall σ)) :
    let first := serve model call r u
    let later := serveAll model rest first.1.2 first.2
    serveAll model (call :: rest) r u = ((first.1.1 :: later.1.1, later.1.2), later.2) := by
  simp only [serveAll, List.mapM_cons, bind_beside, pure_beside]

theorem serveAll_append (first last : List (RootCall σ)) :
    let begun := serveAll model first r u
    let ended := serveAll model last begun.1.2 begun.2
    serveAll model (first ++ last) r u = ((begun.1.1 ++ ended.1.1, ended.1.2), ended.2) := by
  simp only [serveAll, List.mapM_append, bind_beside, pure_beside]

/-- What each call keeps true of the answers so far and the entity, a run keeps true. -/
theorem serveAll_induction {P : List RootAnswer → Root σ → Prop} {calls : List (RootCall σ)}
    (log : List RootAnswer)
    (step : ∀ log r u, ∀ call ∈ calls, P log r →
      P (log ++ [(serve model call r u).1.1]) (serve model call r u).1.2)
    (start : P log r) : P (log ++ (serveAll model calls r u).1.1) (serveAll model calls r u).1.2 := by
  induction calls generalizing log r u with
  | nil => exact (List.append_nil log).symm ▸ start
  | cons call rest ih =>
      have next := ih (u := (serve model call r u).2) _
        (fun log r u other member => step log r u other (List.mem_cons_of_mem _ member))
        (step log r u call List.mem_cons_self start)
      rw [serveAll_cons]
      -- the first answer stands at the end of the log that the other calls begin with
      rwa [List.append_assoc] at next

end Root
end Switchboard
