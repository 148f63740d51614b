import Switchboard.Proofs.Repository.Sending
import Switchboard.Proofs.Signal.Drawing

namespace Switchboard

/-! The signals that a repository reports have ids that are drawn while it works on a command. -/

variable {β σ ε : Type}

/-- Whatever the answer to a command is, it comes with ids that were drawn since. -/
def Supply.Yields (start : Supply) (answer : Except ε Outcome) (later : Supply) : Prop :=
  start.Draws [] later ∧ ∀ {outcome}, answer = .ok outcome → start.Draws outcome.newIds later

namespace Supply.Yields

variable {start middle later : Supply} {answer : Except ε Outcome}

theorem of_error {error : ε} (draws : start.Draws [] later) :
    start.Yields (.error error : Except ε Outcome) later := by
  refine ⟨draws, ?_⟩
  intro outcome answered
  cases answered

theorem of_ok {outcome : Outcome} (draws : start.Draws outcome.newIds later) :
    start.Yields (.ok outcome : Except ε Outcome) later := by
  refine ⟨draws.none, ?_⟩
  intro other answered
  cases answered
  exact draws

theorem after (before : start.Draws [] middle) (yields : middle.Yields answer later) :
    start.Yields answer later :=
  ⟨before.trans yields.1, fun answered => before.trans (yields.2 answered)⟩

end Supply.Yields

theorem Worker.dispatch_yields (worker : Worker β σ) (key : EntityKey) (command : Signal)
    (w : World (Cached β (Root σ))) :
    w.supply.Yields (worker.dispatch key command w).1 (worker.dispatch key command w).2.supply := by
  simp only [Worker.dispatch, Computation.bind_apply, Computation.outside_apply]
  rcases worker.cache.read key w.outside with ⟨error | root, read⟩
  · exact .of_error (.refl _)
  · have draws := Root.dispatch_draws worker.model root command w.supply
    simp only [Computation.bind_apply, Computation.drawing_apply, ExceptT.run, StateT.run]
    generalize Root.dispatch worker.model command root w.supply = dispatched at draws ⊢
    obtain ⟨⟨result, next⟩, later⟩ := dispatched
    obtain ⟨progress, events⟩ := draws
    cases result with
    | error error =>
        cases error with
        | configuration error => exact .of_error progress
        | crashed => exact .of_error progress
        | decode event error => exact .of_ok progress
        | handler error =>
            exact .after progress (.of_ok (ofHandlerError_draws error command later))
    | ok made =>
        simp only [Computation.bind_apply, Computation.outside_apply]
        rcases worker.cache.write next.commit.2 read with ⟨error | done, written⟩
        · exact .of_error progress
        · exact .of_ok (events rfl)

namespace Repository

variable (r : Repository β σ)

theorem dispatch_yields (command : Signal) (w : World (RepositoryState β σ)) :
    w.supply.Yields (r.dispatch command w).1 (r.dispatch command w).2.supply := by
  cases target : r.keyOf? command with
  | none =>
      simp only [dispatch, target, Computation.pure_apply]
      exact .of_ok (.refl _)
  | some key =>
      have attempts := dispatch_attempts w target
      rcases sent : r.dispatch command w with ⟨answer, after⟩
      rw [sent] at attempts
      obtain ⟨middle, first, last⟩ := attempts
      have begun : w.supply.Draws [] middle.supply := by
        obtain rfl | worked := first
        · exact .refl _
        · have yields := r.worker.dispatch_yields key command (inside w)
          rw [worked] at yields
          exact yields.1
      obtain ⟨rfl, same⟩ | worked := last
      · have supplies : after.supply = middle.supply := congrArg World.supply same
        rw [← supplies] at begun
        exact .of_error begun
      · have yields := r.worker.dispatch_yields key command middle
        rw [worked] at yields
        exact .after begun yields

end Repository

end Switchboard
