import Switchboard.Outcome
import Switchboard.Proofs.Aggregate.Replay

namespace Switchboard

/-! How an entity answers a command, apart from where it is kept. -/

variable {σ : Type} {model : AggregateModel σ} {key : EntityKey} {s next : Snapshot σ}
  {command : Signal} {supply : Supply} {reply : Except DispatchError Outcome}

/-- The events that a reply reports, if it tells of a success. -/
def reported : Except DispatchError Outcome → Option (List Signal)
  | .ok (.success events) => some events
  | _ => none

theorem reported_eq_some {events : List Signal} :
    reported reply = some events ↔ reply = .ok (.success events) := by
  unfold reported
  split <;> simp_all

/-- The reply to a command, and the entity as it is kept after it. -/
def AggregateModel.answer (model : AggregateModel σ) (key : EntityKey) (s : Snapshot σ)
    (command : Signal) : StateM Supply (Except DispatchError Outcome × Snapshot σ) := do
  let (result, root) ← (Root.dispatch model command).run.run (Root.ofSnapshot model key s)
  match result with
  | .error (.configuration error) => return (.error (.configuration error), s)
  | .error (.handler error) => return (.ok (← Outcome.ofHandlerError error command), s)
  | .error (.decode event error) =>
      return (.ok (.failure (.of "DecodeError" (AggregateError.decode event error).message)), s)
  | .error .crashed => return (.error .actorGone, s)
  | .ok events => return (.ok (.success events), root.snapshot)

/-- The replies to commands in turn, up to the first error, and the entity after them. -/
def AggregateModel.answerEach (model : AggregateModel σ) (key : EntityKey) :
    Snapshot σ → List Signal → StateM Supply (Except DispatchError (List Outcome) × Snapshot σ)
  | s, [] => return (.ok [], s)
  | s, command :: rest => do
      match ← model.answer key s command with
      | (.error error, next) => return (.error error, next)
      | (.ok outcome, next) =>
          let (outcomes, last) ← model.answerEach key next rest
          return (outcomes.map (outcome :: ·), last)

theorem reported_ofHandlerError (error : HandlerError) (command : Signal) (supply : Supply) :
    reported (.ok (Outcome.ofHandlerError error command supply).1) = none := by
  cases error <;> rfl

/-- Once its events are taken, an entity is as a snapshot of it gives it. -/
theorem Root.commit_dispatch {events : List Signal} {root : Root σ}
    (dispatched : (dispatch model command (ofSnapshot model key s) supply).1 = (.ok events, root)) :
    root.commit.2 = .ofSnapshot model key root.snapshot := by
  obtain ⟨last, -, -, rfl⟩ := dispatch_applied dispatched
  rfl

/-- Either the reply reports no events and the entity stays as it is, or it changes by the
events that are reported. -/
theorem AggregateModel.answer_cases
    (answered : (model.answer key s command supply).1 = (reply, next)) :
    (reported reply = none ∧ next = s) ∨
      ∃ events, reply = .ok (.success events) ∧ s.applyAll model events = .ok next ∧
        Stamped model s.version events := by
  rcases dispatched : Root.dispatch model command (.ofSnapshot model key s) supply with ⟨⟨result, root⟩, later⟩
  simp only [answer, Computation.bind_apply, ExceptT.run, StateT.run, dispatched] at answered
  cases result with
  | ok events =>
      cases answered
      obtain ⟨last, applied, stamped, rfl⟩ := Root.dispatch_applied (congrArg Prod.fst dispatched)
      exact .inr ⟨events, rfl, applied, stamped⟩
  | error error =>
      left
      cases error with
      | handler error =>
          cases answered
          exact ⟨reported_ofHandlerError _ _ _, rfl⟩
      | _ =>
          cases answered
          exact ⟨rfl, rfl⟩

end Switchboard
