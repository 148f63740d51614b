import Switchboard.Proofs.Repository.Requests
import Switchboard.Proofs.Sample.Branch

namespace Switchboard.Repository

/-! Event sourcing. Whatever fails in a run, an entity is what its reported events make it. -/

variable {β σ : Type}

/-- The events that the replies of a run report of an entity, in order. -/
def history (r : Repository β σ) (key : EntityKey) (log : List (Request × Reply σ)) : List Signal :=
  log.flatMap fun (request, reply) =>
    if r.entity? request = some key then reply.events.getD [] else []

variable {r : Repository β σ} {view : r.storage.View} {w : World (RepositoryState β σ)}
  {key : EntityKey} {log : List (Request × Reply σ)} {requests : List Request}

/-- Caching is off, and the events reported of an entity make it what it is. -/
structure Sourced (r : Repository β σ) (view : r.storage.View) (key : EntityKey)
    (log : List (Request × Reply σ)) (w : World (RepositoryState β σ)) : Prop where
  uncached : w.outside.Uncached
  applied : (Root.fresh r.model key).snapshot.applyAll r.model (r.history key log) =
    .ok ((r.inventory view w.outside.cached).latest r.model key)
  stamped : Stamped r.model 0 (r.history key log)

theorem Sourced.start (uncached : w.outside.Uncached)
    (unrecorded : view.record w.outside.cached.backing key = none) : r.Sourced view key [] w where
  uncached
  applied := by
    rw [Inventory.latest_of_uncached (isCaching_of_uncached view uncached key)]
    simp only [inventory, unrecorded]
    rfl
  stamped := trivial

theorem history_step {request : Request} {reply : Reply σ} :
    r.history key (log ++ [(request, reply)]) =
      r.history key log ++ if r.entity? request = some key then reply.events.getD [] else [] := by
  simp [history]

theorem Sourced.step {request : Request} (sourced : r.Sourced view key log w)
    (single : request.isBatch = false) :
    r.Sourced view key (log ++ [(request, (r.serve request w).1)]) (r.serve request w).2 := by
  have served := serve_cases view (proper_of_uncached sourced.uncached) single
  rcases answered : r.serve request w with ⟨reply, ended⟩
  rw [answered] at served
  obtain ⟨-, caching, same⟩ := served
  have uncached : ended.outside.Uncached := uncached_of_isCaching view fun other =>
    (caching other).trans (isCaching_of_uncached view sourced.uncached other)
  obtain ⟨silent, same, -⟩ | ⟨place, events, next, target, reports, applied, stamped, kept⟩ := same
  · have nothing : r.history key (log ++ [(request, reply)]) = r.history key log := by
      simp [history_step, silent]
    exact ⟨uncached, by rw [nothing, same]; exact sourced.applied, nothing ▸ sourced.stamped⟩
  · have latest := congrArg (·.latest r.model key) kept
    simp only [Inventory.latest_keep] at latest
    by_cases here : key = place
    · subst here
      have more : r.history key (log ++ [(request, reply)]) = r.history key log ++ events := by
        simp [history_step, target, reports]
      refine ⟨uncached, ?_, ?_⟩
      · rw [more, Snapshot.applyAll_append, sourced.applied, latest, if_pos rfl]
        exact applied
      · rw [more]
        exact Snapshot.stamped_append sourced.applied sourced.stamped stamped
    · have nothing : r.history key (log ++ [(request, reply)]) = r.history key log := by
        simp [history_step, target, Ne.symm here]
      rw [if_neg here] at latest
      exact ⟨uncached, by rw [nothing, latest]; exact sourced.applied, nothing ▸ sourced.stamped⟩

theorem Sourced.run (sourced : r.Sourced view key log w)
    (single : ∀ request ∈ requests, request.isBatch = false) :
    r.Sourced view key (log ++ (r.serveAll requests w).1) (r.serveAll requests w).2 :=
  serveAll_induction log (P := fun log w => r.Sourced view key log w)
    (fun _ _ request member sourced => sourced.step (single request member)) sourced

/-- With caching off, a request that reports no events changes nothing. -/
theorem inventory_of_silent (uncached : w.outside.Uncached) {request : Request}
    (single : request.isBatch = false) (silent : (r.serve request w).1.events = none) :
    r.inventory view (r.serve request w).2.outside.cached = r.inventory view w.outside.cached := by
  have served := serve_cases view (proper_of_uncached uncached) single
  rcases answered : r.serve request w with ⟨reply, ended⟩
  rw [answered] at served silent
  obtain ⟨-, caching, ⟨-, -, records⟩ | ⟨_, _, _, -, reports, -⟩⟩ := served
  · refine Inventory.ext (funext fun key => ?_) records
    have off := isCaching_of_uncached view uncached key
    have still := (caching key).trans off
    simp only [Inventory.isCaching, Option.isSome_eq_false_iff, Option.isNone_iff_eq_none] at off still
    rw [off, still]
  · exact absurd (silent.symm.trans reports) (by simp)

open Sample Branch in
def visits : List Request :=
  [.dispatch (opening "a"), .dispatch (deposit "a"), .dispatch (deposit "a"),
    .retire (repository.keyFor none "a"), .dispatch (deposit "a"), .dispatch (opening "a")]

/-- At the end of every run of single commands, wherever storage and actors failed in it, an
entity is a new one to which all events reported of it have been played, and these count its
versions up from one. A further request that reports no events changes no entity. -/
theorem history_replayed (r : Repository β σ) (view : r.storage.View)
    (w : World (RepositoryState β σ)) (requests : List Request) (uncached : w.outside.Uncached)
    (single : ∀ request ∈ requests, request.isBatch = false) (tenant : Option TenantId) (id : String)
    (unrecorded : view.record w.outside.cached.backing (r.keyFor tenant id) = none) :
    let key := r.keyFor tenant id
    let run := r.serveAll requests w
    let events := r.history key run.1
    let changing := events.filter fun event => r.model.isStateChanging event.type
    (∃ root, Root.play r.model events (.fresh r.model key) = (.ok (), root) ∧
      ∀ s, (r.snapshot tenant id run.2).1 = .ok s → s = root.snapshot) ∧
    (changing.map (·.context.version) =
      (List.range changing.length).map fun place => some (.ofNat (place + 1))) ∧
    ∀ request : Request, request.isBatch = false → (r.serve request run.2).1.events = none →
      r.inventory view (r.serve request run.2).2.outside.cached = r.inventory view run.2.outside.cached := by
  have sourced := (Sourced.start uncached unrecorded).run single
  rw [List.nil_append] at sourced
  refine ⟨⟨_, Root.play_ok sourced.applied, fun s captured => ?_⟩, ?_, fun request =>
    inventory_of_silent sourced.uncached⟩
  · rw [Root.snapshot_restore]
    exact snapshot_latest view (proper_of_uncached sourced.uncached) captured
  · simpa using sourced.stamped.versions

open Sample Branch in
/-- The disk fails to write the first deposit and to read the account for the third. -/
theorem history_replayed_branch :
    let run := repository.serveAll visits (start (.after 3 1 diskError) (.after 1 1 diskError))
    let events := repository.history (repository.keyFor none "a") run.1
    events.length = 2 ∧
      ∃ root, Root.play repository.model events (.fresh repository.model (repository.keyFor none "a")) =
          (.ok (), root) ∧
        ∀ s, (repository.snapshot none "a" run.2).1 = .ok s → s = root.snapshot := by
  have replayed := history_replayed repository Branch.view (start (.after 3 1 diskError) (.after 1 1 diskError))
    visits (RepositoryState.cold_uncached _) (by decide) none "a" rfl
  exact ⟨by decide +kernel, replayed.1⟩

end Switchboard.Repository
