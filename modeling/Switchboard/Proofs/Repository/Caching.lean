import Switchboard.Proofs.Repository.Sending

namespace Switchboard.Repository

/-! Starting and stopping caching, and what is done meanwhile. -/

variable {β σ : Type} {r : Repository β σ} (view : r.storage.View)

section Cache

variable {c : Cached β (Root σ)}

theorem startCaching_inventory (key : EntityKey) :
    r.inventory view (r.cache.startCaching key c).2 =
      (r.inventory view c).start (r.cache.normalize key) := by
  rw [EntityCache.startCaching_apply]
  refine Inventory.ext (funext fun other => ?_) (by split <;> rfl)
  cases slot : c.slots.find? (r.cache.normalize key) with
  | none =>
      have off : r.cache.isCaching c key = false := by simp [EntityCache.isCaching, Table.contains, slot]
      by_cases here : other = r.cache.normalize key
      · simp [off, inventory, Inventory.start, here, slot, Table.find?_insert]
      · simp [off, inventory, Inventory.start, here, Ne.symm here, Table.find?_insert]
  | some held =>
      have on : r.cache.isCaching c key = true := by simp [EntityCache.isCaching, Table.contains, slot]
      by_cases here : other = r.cache.normalize key
      · simp [on, inventory, Inventory.start, here, slot]
      · simp [on, inventory, Inventory.start, here]

theorem startCaching_proper (proper : r.Proper c) (key : EntityKey) :
    r.Proper (r.cache.startCaching key c).2 := by
  rw [EntityCache.startCaching_apply]
  split
  · exact proper
  · intro other root found
    rw [Table.find?_insert] at found
    split at found
    · cases found
    · exact proper other root found

/-- The first read of an entity that has not been held before asks the storage. -/
theorem read_started {key : EntityKey}
    (off : (r.inventory view c).isCaching (r.cache.normalize key) = false) :
    (r.cache.read key (r.cache.startCaching key c).2).2.backing =
      (r.storage.load (r.cache.normalize key) c.backing).2 := by
  rw [← isCaching_eq] at off
  have absent : (r.cache.startCaching key c).2.held? (r.cache.normalize key) = none := by
    simp [EntityCache.startCaching_apply, off, Cached.held?, Table.find?_insert]
  have same : (r.cache.startCaching key c).2.backing = c.backing := by
    simp [EntityCache.startCaching_apply, off]
  have loading := cache_load_apply r (r.cache.normalize key) c.backing
  rw [← same] at loading ⊢
  have after := congrArg Prod.snd loading
  rcases loaded : r.cache.load (r.cache.normalize key) (r.cache.startCaching key c).2.backing with
    ⟨error | root, b⟩
  · rw [EntityCache.read_failed absent loaded]
    rwa [loaded] at after
  · rw [EntityCache.read_loaded absent loaded]
    rw [loaded] at after
    split <;> exact after

/-- Stopping writes what is held of an entity. It fails if there is nothing, or if the storage
fails, and then caching stays on. -/
theorem stopCaching_cases (proper : r.Proper c) (key : EntityKey) :
    let place := r.cache.normalize key
    let before := r.inventory view c
    let (result, after) := r.cache.stopCaching key c
    r.Proper after ∧
      (((before.slots place).join = none ∧ result = .error (.notCached place) ∧ after = c) ∨
        (∃ error, result = .error (.storage error) ∧ ¬ r.storage.Reliable ∧
          r.inventory view after = before) ∨
        ∃ s, before.slots place = some (some s) ∧ result = .ok () ∧
          after.backing = (r.storage.store place s c.backing).2 ∧
          r.inventory view after = before.settle place s) := by
  intro place before
  cases held : c.held? place with
  | none =>
      rw [EntityCache.stopCaching_absent held]
      refine ⟨proper, .inl ⟨?_, rfl, rfl⟩⟩
      cases slot : c.slots.find? place with
      | none => simp [before, inventory, slot]
      | some inner =>
          have nothing : inner = none := by simpa [Cached.held?, slot] using held
          simp [before, inventory, slot, nothing]
  | some root =>
      have slot := slots_of_held held
      have is := proper place root slot
      have storing : r.cache.store root c.backing = r.storage.store place root.snapshot c.backing := by
        rw [is]
        rfl
      rcases stored : r.storage.store place root.snapshot c.backing with ⟨error | done, b⟩
      · rw [EntityCache.stopCaching_failed held (storing.trans stored)]
        refine ⟨proper, .inr (.inl ⟨error, rfl, fun reliable => ?_, ?_⟩)⟩
        · have fine := reliable.store place root.snapshot c.backing
          simp [stored] at fine
        · have kept := view.store_failed (congrArg Prod.fst stored)
          rw [stored] at kept
          exact Inventory.ext rfl kept
      · rw [EntityCache.stopCaching_stored held (storing.trans stored)]
        have kept := view.store_ok (congrArg Prod.fst stored)
        rw [stored] at kept
        refine ⟨?_, .inr (.inr ⟨root.snapshot, by simp [before, inventory, slot], rfl, by rw [stored], ?_⟩)⟩
        · intro other root found
          rw [Table.find?_erase] at found
          split at found
          · cases found
          · exact proper other root found
        · refine Inventory.ext (funext fun other => ?_) kept
          by_cases here : other = place
          · simp [before, inventory, Inventory.settle, Table.find?_erase, here, place]
          · simp [before, inventory, Inventory.settle, Table.find?_erase, here, Ne.symm here, place]

end Cache

section Worker

variable {w : World (Cached β (Root σ))} {key : EntityKey} {s : Snapshot σ}

theorem read_of_held (proper : r.Proper w.outside)
    (held : (r.inventory view w.outside).slots (r.cache.normalize key) = some (some s)) :
    r.cache.read key w.outside = (.ok (.ofSnapshot r.model (r.cache.normalize key) s), w.outside) := by
  simp only [inventory, Option.map_eq_some_iff] at held
  obtain ⟨inner, slot, root, rfl, rfl⟩ := held
  rw [EntityCache.read_held (by rw [Cached.held?, slot]; rfl), ← proper _ root slot]

/-- An entity that is held handles a command without the storage. -/
theorem worker_held (proper : r.Proper w.outside)
    (held : (r.inventory view w.outside).slots (r.cache.normalize key) = some (some s))
    (command : Signal) :
    let place := r.cache.normalize key
    let (reply, after) := r.worker.dispatch key command w
    r.Proper after.outside ∧ after.outside.backing = w.outside.backing ∧
      ∃ next, r.model.answer place s command w.supply = ((reply, next), after.supply) ∧
        r.inventory view after.outside = (r.inventory view w.outside).hold place next := by
  intro place
  have on : (r.inventory view w.outside).isCaching place = true := by simp [Inventory.isCaching, place, held]
  rcases answered : r.model.answer place s command w.supply with ⟨⟨reply, next⟩, supply⟩
  rw [worker_read (read_of_held view proper held) answered]
  cases success : (reported reply).isSome with
  | false =>
      obtain ⟨-, rfl⟩ | ⟨events, rfl, -⟩ := AggregateModel.answer_cases (congrArg Prod.fst answered)
      · refine ⟨proper, rfl, _, rfl, (Inventory.hold_eq_self fun other slot => ?_).symm⟩
        exact Option.some.inj (slot.symm.trans held)
      · simp [reported] at success
  | true =>
      have keyed : r.cache.isCaching w.outside (r.cache.keyOf (.ofSnapshot r.model place next)) = true := by
        rw [isCaching_eq view]
        exact (congrArg _ (EntityCache.normalize_normalize key)).trans on
      have normal : r.cache.normalize (r.cache.keyOf (.ofSnapshot r.model place next)) = place :=
        EntityCache.normalize_normalize key
      rw [EntityCache.write_cached keyed, normal]
      exact ⟨proper_hold proper, rfl, next, rfl, inventory_hold rfl on⟩

theorem dispatchEach_held (proper : r.Proper w.outside)
    (held : (r.inventory view w.outside).slots (r.cache.normalize key) = some (some s))
    (commands : List Signal) :
    let place := r.cache.normalize key
    let (replies, after) := r.worker.dispatchEach key commands w
    r.Proper after.outside ∧ after.outside.backing = w.outside.backing ∧
      ∃ last, r.model.answerEach place s commands w.supply = ((replies, last), after.supply) ∧
        r.inventory view after.outside = (r.inventory view w.outside).hold place last := by
  induction commands generalizing w s with
  | nil =>
      refine ⟨proper, rfl, s, rfl, (Inventory.hold_eq_self fun other slot => ?_).symm⟩
      exact Option.some.inj (slot.symm.trans held)
  | cons command rest ih =>
      have first := worker_held view proper held command
      simp only [Worker.dispatchEach, AggregateModel.answerEach, Computation.bind_apply]
      rcases worked : r.worker.dispatch key command w with ⟨reply, middle⟩
      rw [worked] at first
      obtain ⟨proper, same, next, answered, kept⟩ := first
      rw [answered]
      cases reply with
      | error error => exact ⟨proper, same, next, rfl, kept⟩
      | ok outcome =>
          have still : (r.inventory view middle.outside).slots (r.cache.normalize key) = some (some next) := by
            simp [kept, Inventory.hold, held]
          have later := ih proper still
          simp only [Computation.bind_apply, Computation.pure_apply]
          rcases worked : r.worker.dispatchEach key rest middle with ⟨replies, after⟩
          rw [worked] at later
          obtain ⟨proper, same', last, answered, kept'⟩ := later
          rw [answered]
          rw [kept, Inventory.hold_hold] at kept'
          exact ⟨proper, same'.trans same, last, rfl, kept'⟩

/-- With caching on, commands are handled like those of an entity that is held, once it has
been read. -/
theorem dispatchEach_cases (proper : r.Proper w.outside) (key : EntityKey)
    (on : (r.inventory view w.outside).isCaching (r.cache.normalize key) = true)
    (command : Signal) (rest : List Signal) :
    let place := r.cache.normalize key
    let before := r.inventory view w.outside
    let (replies, after) := r.worker.dispatchEach key (command :: rest) w
    r.Proper after.outside ∧ after.outside.backing = (r.cache.read key w.outside).2.backing ∧
      ((∃ error, replies = .error (.storage error) ∧ ¬ r.storage.Reliable ∧
          r.inventory view after.outside = before) ∨
        ∃ last, r.model.answerEach place (before.latest r.model place) (command :: rest) w.supply =
            ((replies, last), after.supply) ∧
          r.inventory view after.outside = before.hold place last) := by
  intro place before
  have reading := read_cases view proper key
  rcases read : r.cache.read key w.outside with ⟨result, c⟩
  rw [read] at reading
  obtain ⟨proper, ⟨error, rfl, unreliable, same⟩ | ⟨rfl, loaded⟩⟩ := reading
  · have failed : r.worker.dispatchEach key (command :: rest) w =
        (.error (.storage error), ⟨w.supply, c⟩) := by
      simp only [Worker.dispatchEach, Computation.bind_apply, worker_unread read, Computation.pure_apply]
    rw [failed]
    exact ⟨proper, rfl, .inl ⟨error, rfl, unreliable, same⟩⟩
  · have held : (r.inventory view c).slots place = some (some (before.latest r.model place)) := by
      obtain ⟨slot, found⟩ := Option.isSome_iff_exists.mp on
      simp [loaded, Inventory.hold, place, found, before]
    have again : r.cache.read key c = r.cache.read key w.outside :=
      (read_of_held view (w := ⟨w.supply, c⟩) proper held).trans read.symm
    have warm : r.worker.dispatch key command w = r.worker.dispatch key command ⟨w.supply, c⟩ := by
      simp only [Worker.dispatch, worker, Computation.bind_apply, Computation.outside_apply, again, read]
    have handled := dispatchEach_held view (w := ⟨w.supply, c⟩) proper held (command :: rest)
    have warmed : r.worker.dispatchEach key (command :: rest) w =
        r.worker.dispatchEach key (command :: rest) ⟨w.supply, c⟩ := by
      simp only [Worker.dispatchEach, Computation.bind_apply, warm]
    rw [warmed]
    rcases worked : r.worker.dispatchEach key (command :: rest) ⟨w.supply, c⟩ with ⟨replies, after⟩
    rw [worked] at handled
    obtain ⟨proper, same, last, answered, kept⟩ := handled
    rw [loaded, Inventory.hold_hold] at kept
    exact ⟨proper, same, .inr ⟨last, answered, kept⟩⟩

variable {commands : List Signal} {replies : Except DispatchError (List Outcome)}
  {middle : World (Cached β (Root σ))} {stopped : Except CacheError Unit} {c : Cached β (Root σ)}

theorem dispatchBatch_gone
    (handled : r.worker.dispatchEach key commands ⟨w.supply, (r.cache.startCaching key w.outside).2⟩ =
      (.error .actorGone, middle)) :
    r.worker.dispatchBatch key commands w = (.error .actorGone, middle) := by
  simp only [Worker.dispatchBatch, Computation.bind_apply, Computation.outside_apply]
  rw [show r.worker.cache = r.cache from rfl, handled]
  rfl

theorem dispatchBatch_stopped (present : replies ≠ .error .actorGone)
    (handled : r.worker.dispatchEach key commands ⟨w.supply, (r.cache.startCaching key w.outside).2⟩ =
      (replies, middle))
    (stopping : r.cache.stopCaching key middle.outside = (stopped, c)) :
    r.worker.dispatchBatch key commands w =
      (match stopped with
        | .error (.storage error) => replies.bind fun _ => .error (.storage error)
        | _ => replies, ⟨middle.supply, c⟩) := by
  simp only [Worker.dispatchBatch, Computation.bind_apply, Computation.outside_apply]
  rw [show r.worker.cache = r.cache from rfl, handled]
  rcases replies with (_ | _ | _) | outcomes
  case error.actorGone => exact absurd rfl present
  all_goals
    simp only [Computation.bind_apply, Computation.outside_apply, stopping]
    rcases stopped with (_ | _) | _ <;> rfl

/-- A batch without a command starts caching but may find nothing to write. -/
theorem dispatchBatch_nil (proper : r.Proper w.outside) (key : EntityKey) :
    let before := r.inventory view w.outside
    let (_, after) := r.worker.dispatchBatch key [] w
    r.Proper after.outside ∧ ∀ other, (r.inventory view after.outside).isCaching other = true →
      other = r.cache.normalize key ∨ before.isCaching other = true := by
  intro before
  have started := startCaching_inventory view (c := w.outside) key
  have stopping := stopCaching_cases view (startCaching_proper proper key) key
  rcases stop : r.cache.stopCaching key (r.cache.startCaching key w.outside).2 with ⟨stopped, c⟩
  rw [stop, started] at stopping
  have present : (.ok [] : Except DispatchError (List Outcome)) ≠ .error .actorGone := by simp
  rw [dispatchBatch_stopped present rfl stop]
  obtain ⟨proper, ⟨-, -, rfl⟩ | ⟨error, -, -, same⟩ | ⟨s, -, -, -, same⟩⟩ := stopping
  · refine ⟨proper, fun other on => ?_⟩
    rw [started] at on
    simpa using on
  · refine ⟨proper, fun other on => ?_⟩
    rw [same] at on
    simpa using on
  · refine ⟨proper, fun other on => ?_⟩
    rw [same] at on
    simp only [Inventory.isCaching_settle, Inventory.isCaching_start, Bool.and_eq_true,
      Bool.or_eq_true, decide_eq_true_eq] at on
    exact on.2

/-- Where a batch is not cut short by the storage or the end of its actor, the entity is read
once, answers all its commands and is written once. -/
theorem dispatchBatch_cons (proper : r.Proper w.outside) (key : EntityKey) (command : Signal)
    (rest : List Signal) :
    let place := r.cache.normalize key
    let before := r.inventory view w.outside
    let (replies, after) := r.worker.dispatchBatch key (command :: rest) w
    r.Proper after.outside ∧
      ((∃ error, replies = .error error ∧
          (r.storage.Reliable → (r.model.answerEach place (before.latest r.model place)
            (command :: rest) w.supply).1.1 = .error .actorGone) ∧
          ∀ other, (r.inventory view after.outside).isCaching other = true →
            other = place ∨ before.isCaching other = true) ∨
        ∃ last, r.model.answerEach place (before.latest r.model place) (command :: rest) w.supply =
            ((replies, last), after.supply) ∧
          (before.isCaching place = false → after.outside.backing =
            (r.storage.store place last (r.storage.load place w.outside.backing).2).2) ∧
          r.inventory view after.outside = before.settle place last) := by
  intro place before
  have started := startCaching_inventory view (c := w.outside) key
  have handling := dispatchEach_cases view (w := ⟨w.supply, (r.cache.startCaching key w.outside).2⟩)
    (startCaching_proper proper key) key (by simp [started]) command rest
  rcases handled : r.worker.dispatchEach key (command :: rest)
    ⟨w.supply, (r.cache.startCaching key w.outside).2⟩ with ⟨replies, middle⟩
  rw [handled] at handling
  simp only [started, Inventory.latest_start] at handling
  obtain ⟨proper, backing, handling⟩ := handling
  have bounded : ∀ other, (r.inventory view middle.outside).isCaching other = true →
      other = place ∨ before.isCaching other = true := by
    intro other on
    obtain ⟨_, -, -, same⟩ | ⟨_, -, same⟩ := handling
    all_goals
      rw [same] at on
      simpa using on
  by_cases gone : replies = .error .actorGone
  · subst gone
    rw [dispatchBatch_gone handled]
    refine ⟨proper, .inl ⟨_, rfl, fun _ => ?_, bounded⟩⟩
    obtain ⟨_, stored, -⟩ | ⟨last, answered, -⟩ := handling
    · cases stored
    · rw [answered]
  have stopping := stopCaching_cases view proper key
  rcases stop : r.cache.stopCaching key middle.outside with ⟨stopped, c⟩
  rw [stop] at stopping
  rw [dispatchBatch_stopped gone handled stop]
  obtain ⟨error, rfl, unreliable, same⟩ | ⟨last, answered, kept⟩ := handling
  · refine ⟨stopping.1, .inl ⟨.storage error, ?_, fun reliable => absurd reliable unreliable, fun other on => ?_⟩⟩
    · rcases stopped with (_ | _) | _ <;> rfl
    · obtain ⟨-, ⟨-, -, rfl⟩ | ⟨_, -, -, same⟩ | ⟨s, -, -, -, same⟩⟩ := stopping
      · exact bounded other on
      · exact bounded other (same ▸ on)
      · rw [same, Inventory.isCaching_settle, Bool.and_eq_true] at on
        exact bounded other on.2
  · have held : (r.inventory view middle.outside).slots place = some (some last) := by
      simp [kept, Inventory.hold, Inventory.start, place]
    obtain ⟨proper, ⟨absent, -⟩ | ⟨error, rfl, unreliable, same⟩ | ⟨s, slot, rfl, stored, same⟩⟩ := stopping
    · rw [held] at absent
      cases absent
    · refine ⟨proper, .inl ?_⟩
      cases replies <;>
        exact ⟨_, rfl, fun reliable => absurd reliable unreliable, fun other on => bounded other (same ▸ on)⟩
    · obtain rfl : last = s := Option.some.inj (Option.some.inj (held.symm.trans slot))
      refine ⟨proper, .inr ⟨last, answered, fun off => ?_, ?_⟩⟩
      · rw [stored, backing, read_started view off]
      · rw [same, kept, Inventory.settle_hold_start]

end Worker

end Switchboard.Repository
