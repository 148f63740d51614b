import Switchboard.Proofs.Entity.Cache
import Switchboard.Proofs.Repository.Inventory

namespace Switchboard.Repository

/-! What reading, writing and dispatching do to the inventory of a repository, whether the
calls of its storage fail or not. -/

variable {β σ : Type} {r : Repository β σ} (view : r.storage.View) {c : Cached β (Root σ)}
  {key : EntityKey} {s : Snapshot σ}

theorem isCaching_eq :
    r.cache.isCaching c key = (r.inventory view c).isCaching (r.cache.normalize key) := by
  simp [EntityCache.isCaching, Table.contains, Inventory.isCaching, inventory]

/-- Reading gives the latest snapshot of an entity, which is held from then on if caching is
on. It fails only where the storage does. -/
theorem read_cases (proper : r.Proper c) (key : EntityKey) :
    let place := r.cache.normalize key
    let latest := (r.inventory view c).latest r.model place
    let (result, after) := r.cache.read key c
    r.Proper after ∧
      ((∃ error, result = .error error ∧ ¬ r.storage.Reliable ∧
          r.inventory view after = r.inventory view c) ∨
        (result = .ok (.ofSnapshot r.model place latest) ∧
          r.inventory view after = (r.inventory view c).hold place latest)) := by
  intro place latest
  cases held : c.held? place with
  | some root =>
      have slot := slots_of_held held
      have is : latest = root.snapshot := latest_of_held held
      rw [EntityCache.read_held held]
      refine ⟨proper, .inr ⟨?_, ?_⟩⟩
      · rw [is, ← proper place root slot]
      · refine (Inventory.hold_eq_self fun other on => ?_).symm
        simpa [inventory, slot, ← is, eq_comm] using on
  | none =>
      have is : latest = (view.record c.backing place).getD (Root.fresh r.model place).snapshot :=
        latest_of_absent held
      have kept := view.load_kept place c.backing
      rcases loaded : r.storage.load place c.backing with ⟨error | found, after⟩
      · have failed : r.cache.load place c.backing = (.error error, after) := by
          rw [cache_load_apply, loaded]
          rfl
        rw [EntityCache.read_failed held failed]
        rw [loaded] at kept
        refine ⟨proper, .inl ⟨error, rfl, fun reliable => ?_, Inventory.ext rfl kept⟩⟩
        obtain ⟨found, fine⟩ := reliable.load place c.backing
        simp [loaded] at fine
      · have read : found.getD (Root.fresh r.model place).snapshot = latest := by
          have is_found : found = view.record c.backing place := view.load_ok (by rw [loaded])
          rw [is, is_found]
        rw [loaded] at kept
        have fetched : r.cache.load place c.backing = (.ok (.ofSnapshot r.model place latest), after) := by
          rw [cache_load_apply, loaded, ← read]
          rfl
        rw [EntityCache.read_loaded held fetched]
        dsimp only
        split
        · rename_i on
          refine ⟨proper_hold proper, .inr ⟨rfl, ?_⟩⟩
          exact inventory_hold kept (by rwa [isCaching_eq] at on)
        · rename_i off
          refine ⟨proper, .inr ⟨rfl, ?_⟩⟩
          rw [Inventory.hold_of_uncached (by simpa [isCaching_eq view] using off)]
          exact Inventory.ext rfl kept

/-- Writing keeps a snapshot. It fails only where the storage does. -/
theorem write_cases (proper : r.Proper c) (normal : r.cache.normalize key = key) (s : Snapshot σ) :
    let (result, after) := r.cache.write (.ofSnapshot r.model key s) c
    r.Proper after ∧
      ((∃ error, result = .error error ∧ ¬ r.storage.Reliable ∧
          (r.inventory view c).isCaching key = false ∧
          r.inventory view after = r.inventory view c) ∨
        (result = .ok () ∧ r.inventory view after = (r.inventory view c).keep key s)) := by
  have same : r.cache.isCaching c (r.cache.keyOf (.ofSnapshot r.model key s)) =
      (r.inventory view c).isCaching key := by
    rw [isCaching_eq view]
    exact congrArg _ normal
  cases on : (r.inventory view c).isCaching key with
  | true =>
      rw [EntityCache.write_cached (same.trans on), Inventory.keep, if_pos on]
      refine ⟨?_, .inr ⟨rfl, ?_⟩⟩
      · exact (congrArg (fun place => r.Proper (c.hold place _)) normal).mpr (proper_hold proper)
      · exact (congrArg (fun place => r.inventory view (c.hold place _)) normal).trans
          (inventory_hold rfl on)
  | false =>
      rw [EntityCache.write_through (same.trans on), Inventory.keep, on]
      cases stored : (r.storage.store key s c.backing).1 with
      | error error =>
          refine ⟨proper, .inl ⟨error, stored, fun reliable => ?_, rfl, ?_⟩⟩
          · simp [reliable.store] at stored
          · exact Inventory.ext rfl (view.store_failed stored)
      | ok done => exact ⟨proper, .inr ⟨stored, Inventory.ext rfl (view.store_ok stored)⟩⟩

variable {w : World (Cached β (Root σ))} {command : Signal} {reply : Except DispatchError Outcome}
  {next : Snapshot σ} {supply : Supply} {after : Cached β (Root σ)} {error : StorageError}

theorem worker_unread (failed : r.cache.read key w.outside = (.error error, after)) :
    r.worker.dispatch key command w = (.error (.storage error), ⟨w.supply, after⟩) := by
  simp only [Worker.dispatch, worker, Computation.bind_apply, Computation.outside_apply, failed,
    Computation.pure_apply]

/-- Once the entity is read it answers, and is written if the answer tells of a success. -/
theorem worker_read {place : EntityKey}
    (read : r.cache.read key w.outside = (.ok (.ofSnapshot r.model place s), after))
    (answered : r.model.answer place s command w.supply = ((reply, next), supply)) :
    r.worker.dispatch key command w =
      if (reported reply).isSome then
        let (written, last) := r.cache.write (.ofSnapshot r.model place next) after
        (match written with
          | .error error => .error (.storage error)
          | .ok () => reply,
        ⟨supply, last⟩)
      else (reply, ⟨supply, after⟩) := by
  rcases dispatched : Root.dispatch r.model command (.ofSnapshot r.model place s) w.supply with
    ⟨⟨result, root⟩, drawn⟩
  simp only [AggregateModel.answer, Computation.bind_apply, ExceptT.run, StateT.run, dispatched] at answered
  simp only [Worker.dispatch, worker, Computation.bind_apply, Computation.outside_apply,
    Computation.drawing_apply, read, ExceptT.run, StateT.run, dispatched]
  cases result with
  | ok events =>
      obtain ⟨⟨rfl, rfl⟩, rfl⟩ := answered
      simp only [reported, Option.isSome_some, if_true, Computation.bind_apply,
        Computation.outside_apply, Root.commit_dispatch (congrArg Prod.fst dispatched)]
      rcases r.cache.write (.ofSnapshot r.model place root.snapshot) after with
        ⟨error | done, last⟩ <;> rfl
  | error error =>
      cases error with
      | handler error =>
          simp only [Computation.bind_apply, Computation.pure_apply] at answered
          obtain ⟨⟨rfl, rfl⟩, rfl⟩ := answered
          simp only [reported_ofHandlerError, Option.isSome_none, Bool.false_eq_true, if_false,
            Computation.bind_apply, Computation.drawing_apply, Computation.pure_apply]
      | _ =>
          obtain ⟨⟨rfl, rfl⟩, rfl⟩ := answered
          rfl

/-- A dispatch either fails with the storage and changes no entity, or the entity answers
from its latest snapshot, and the one that it answers with is kept if it reports a success. -/
theorem worker_cases (proper : r.Proper w.outside) (key : EntityKey) (command : Signal) :
    let place := r.cache.normalize key
    let before := r.inventory view w.outside
    let (reply, after) := r.worker.dispatch key command w
    r.Proper after.outside ∧
      ((∃ error, reply = .error (.storage error) ∧ ¬ r.storage.Reliable ∧
          r.inventory view after.outside = before) ∨
        ∃ next, r.model.answer place (before.latest r.model place) command w.supply =
            ((reply, next), after.supply) ∧
          r.inventory view after.outside =
            if (reported reply).isSome then before.keep place next else before.hold place next) := by
  intro place before
  have reading := read_cases view proper key
  rcases read : r.cache.read key w.outside with ⟨result, c⟩
  rw [read] at reading
  obtain ⟨proper, ⟨error, rfl, unreliable, same⟩ | ⟨rfl, held⟩⟩ := reading
  · rw [worker_unread read]
    exact ⟨proper, .inl ⟨error, rfl, unreliable, same⟩⟩
  · rcases answered : r.model.answer place (before.latest r.model place) command w.supply with
      ⟨⟨reply, next⟩, supply⟩
    rw [worker_read read answered]
    cases success : (reported reply).isSome with
    | false =>
        obtain ⟨-, rfl⟩ | ⟨events, rfl, -⟩ := AggregateModel.answer_cases (congrArg Prod.fst answered)
        · exact ⟨proper, .inr ⟨_, rfl, by simpa [success] using held⟩⟩
        · simp [reported] at success
    | true =>
        have writing := write_cases view proper (EntityCache.normalize_normalize key) next
        rcases written : r.cache.write (.ofSnapshot r.model place next) c with ⟨done, last⟩
        rw [written] at writing
        obtain ⟨proper, ⟨error, rfl, unreliable, off, same⟩ | ⟨rfl, kept⟩⟩ := writing
        · refine ⟨proper, .inl ⟨error, rfl, unreliable, ?_⟩⟩
          rw [held, Inventory.isCaching_hold] at off
          exact same.trans (held.trans (Inventory.hold_of_uncached off))
        · refine ⟨proper, .inr ⟨next, rfl, ?_⟩⟩
          rw [held, Inventory.keep_hold] at kept
          simpa [success] using kept

theorem worker_replied (proper : r.Proper w.outside) (key : EntityKey) (command : Signal) :
    let (reply, after) := r.worker.dispatch key command w
    r.Proper after.outside ∧ (r.inventory view w.outside).Replied r.model (r.cache.normalize key) reply
      (r.inventory view after.outside) := by
  have working := worker_cases view proper key command
  rcases worked : r.worker.dispatch key command w with ⟨reply, after⟩
  rw [worked] at working
  obtain ⟨proper, ⟨error, rfl, -, same⟩ | ⟨next, answered, kept⟩⟩ := working
  · exact ⟨proper, same ▸ .missed _⟩
  · obtain ⟨silent, rfl⟩ | ⟨events, rfl, applied, stamped⟩ :=
      AggregateModel.answer_cases (congrArg Prod.fst answered)
    · have silent : reported reply = none := silent
      rw [silent] at kept
      exact ⟨proper, kept ▸ .unchanged silent⟩
    · exact ⟨proper, kept ▸ .changed applied stamped⟩

theorem worker_snapshot (proper : r.Proper w.outside) (key : EntityKey) :
    let place := r.cache.normalize key
    let before := r.inventory view w.outside
    let (reply, after) := r.worker.snapshot key w
    r.Proper after.outside ∧
      ((∃ error, reply = .error (.storage error) ∧ ¬ r.storage.Reliable ∧
          r.inventory view after.outside = before) ∨
        (reply = .ok (before.latest r.model place) ∧
          r.inventory view after.outside = before.hold place (before.latest r.model place))) := by
  intro place before
  have reading := read_cases view proper key
  simp only [Worker.snapshot, worker, Computation.bind_apply, Computation.outside_apply]
  rcases read : r.cache.read key w.outside with ⟨result, c⟩
  rw [read] at reading
  obtain ⟨proper, ⟨error, rfl, unreliable, same⟩ | ⟨rfl, held⟩⟩ := reading
  · exact ⟨proper, .inl ⟨error, rfl, unreliable, same⟩⟩
  · exact ⟨proper, .inr ⟨rfl, held⟩⟩

end Switchboard.Repository
