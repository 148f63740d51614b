import Switchboard.Proofs.Aggregate.Accounting
import Switchboard.Proofs.Sample.Bench

namespace Switchboard

/-! The events that an entity keeps. They wait, in the order in which commands have made them, until they are
taken; nothing else that is done to the entity touches them. -/

variable {σ : Type} {model : AggregateModel σ} {r : Root σ}

namespace Root

/-- What is kept and what is produced is either taken or kept on, in the same order. -/
theorem serve_conserves (r : Root σ) (call : RootCall σ) (u : Supply) :
    let served := (serve model call r u).1
    r.uncommitted ++ served.1.produces = served.1.takes ++ served.2.uncommitted := by
  cases call with
  | restore s => exact List.append_nil _
  | commit => rfl
  | dispatch command =>
      rcases dispatched : (dispatch model command r u).1 with ⟨error | events, next⟩
      · rw [serve_dispatch_error dispatched, dispatch_failed dispatched]
        exact List.append_nil _
      · obtain ⟨s, -, -, rfl⟩ := dispatch_applied dispatched
        rw [serve_dispatch_ok dispatched]
        rfl
  | play events =>
      obtain ⟨s, -, played⟩ | ⟨error, -, failed⟩ := play_cases model events r
      · rw [serve_play_ok played]
        exact List.append_nil _
      · rw [serve_play_error failed]
        exact List.append_nil _

theorem serveAll_conserves (r : Root σ) (calls : List (RootCall σ)) (u : Supply) :
    let served := (serveAll model calls r u).1
    r.uncommitted ++ served.1.flatMap RootAnswer.produces =
      served.1.flatMap RootAnswer.takes ++ served.2.uncommitted := by
  refine serveAll_induction [] (P := fun log now => r.uncommitted ++ log.flatMap RootAnswer.produces =
    log.flatMap RootAnswer.takes ++ now.uncommitted) ?_ (List.append_nil _)
  intro log now u call _ conserved
  rw [List.flatMap_append, List.flatMap_append, List.flatMap_singleton, List.flatMap_singleton,
    ← List.append_assoc, conserved, List.append_assoc, serve_conserves, List.append_assoc]

/-! ## Since the last time -/

/-- The version is past another one by the changes among the events kept. -/
def Ahead (model : AggregateModel σ) (version : UInt64) (r : Root σ) : Prop :=
  r.version = version + .ofNat (r.stateChanging model).length

theorem ahead_commit (r : Root σ) : r.commit.2.Ahead model r.commit.2.version :=
  (UInt64.add_zero _).symm

theorem serve_dispatch_ahead {version : UInt64} (ahead : r.Ahead model version) (command : Signal) (u : Supply) :
    (serve model (.dispatch command) r u).1.2.Ahead model version := by
  rcases dispatched : (dispatch model command r u).1 with ⟨error | events, next⟩
  · rw [serve_dispatch_error dispatched, dispatch_failed dispatched]
    exact ahead
  · obtain ⟨s, applied, -, rfl⟩ := dispatch_applied dispatched
    rw [serve_dispatch_ok dispatched]
    change s.version = version + .ofNat (model.changing (r.uncommitted ++ events)).length
    rw [(Snapshot.applyAll_accounts applied).version, AggregateModel.changing_append, List.length_append,
      UInt64.ofNat_add, ← UInt64.add_assoc]
    exact congrArg (· + _) ahead

theorem serveAll_dispatch_ahead {version : UInt64} (ahead : r.Ahead model version) (commands : List Signal)
    (u : Supply) : (serveAll model (commands.map .dispatch) r u).1.2.Ahead model version := by
  refine serveAll_induction [] (P := fun _ now => now.Ahead model version) ?_ ahead
  intro log now u call member ahead
  obtain ⟨command, -, rfl⟩ := List.mem_map.mp member
  exact serve_dispatch_ahead ahead command u

/-- Whatever is done to an entity from its beginning on, what has been taken from it and what it keeps are
together the events of its commands, each once and in order. From the last time that they were taken its
version has advanced by one for each event kept that changes the state, as long as only commands have come. -/
theorem buffer_conserved (model : AggregateModel σ) (key : EntityKey) (u : Supply) :
    (∀ calls : List (RootCall σ),
      let served := (serveAll model calls (fresh model key) u).1
      served.1.flatMap RootAnswer.takes ++ served.2.uncommitted = served.1.flatMap RootAnswer.produces) ∧
    ∀ (before : List (RootCall σ)) (commands : List Signal),
      let committed := (serveAll model (before ++ [.commit]) (fresh model key) u).1.2
      let reached := (serveAll model (before ++ .commit :: commands.map .dispatch) (fresh model key) u).1.2
      reached.version = committed.version + .ofNat (reached.stateChanging model).length := by
  refine ⟨fun calls => (serveAll_conserves (fresh model key) calls u).symm, ?_⟩
  intro before commands
  simp only [serveAll_append, serveAll_cons]
  exact serveAll_dispatch_ahead (ahead_commit _) commands _

open Sample Bench in
/-- What a specimen has been through is no event of it, and an experiment that fails leaves none. -/
example :
    let calls := [.dispatch (experiment [adding, muting]), .play [event 7 sealing], .commit,
      .dispatch (experiment [adding, orphaning]), .dispatch (experiment [sealing, removing])]
    let served := (serveAll Lab.model calls specimen Branch.supply).1
    (served.1.flatMap RootAnswer.takes).map Signal.eventMessage = [adding, muting] ∧
      served.2.uncommitted.map Signal.eventMessage = [sealing, removing] ∧ served.2.version = 3 :=
  by decide +kernel

end Root
end Switchboard
