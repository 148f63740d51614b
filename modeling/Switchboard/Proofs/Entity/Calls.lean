import Switchboard.Proofs.Entity.Cache

namespace Switchboard

/-! Calls on a cache, one after another, whatever each of them answers. -/

inductive CacheCall (ε : Type) where
  | startCaching (key : EntityKey)
  | stopCaching (key : EntityKey)
  | load (key : EntityKey)
  | store (entity : ε)

inductive CacheAnswer (ε : Type) where
  | started
  | stopped (result : Except CacheError Unit)
  | loaded (result : Except StorageError ε)
  | stored (result : Except StorageError Unit)

variable {β ε : Type}

namespace Cached

variable (s : Cached β ε) (b : β) (key other : EntityKey) (entity : ε)

@[simp] theorem held?_hold :
    (s.hold key entity).held? other = if key = other then some entity else s.held? other := by
  by_cases here : key = other <;> simp [held?, hold, Table.find?_insert, here]

@[simp] theorem held?_erase :
    held? ⟨s.slots.erase key, b⟩ other = if key = other then none else s.held? other := by
  by_cases here : key = other <;> simp [held?, Table.find?_erase, here]

@[simp] theorem held?_behind : held? { s with backing := b } key = s.held? key := rfl

@[simp] theorem backing_hold : (s.hold key entity).backing = s.backing := rfl

end Cached

namespace EntityCache

def call (c : EntityCache β ε) : CacheCall ε → StateM (Cached β ε) (CacheAnswer ε)
  | .startCaching key => (fun _ => .started) <$> c.startCaching key
  | .stopCaching key => .stopped <$> c.stopCaching key
  | .load key => .loaded <$> c.read key
  | .store entity => .stored <$> c.write entity

def callAll (c : EntityCache β ε) (calls : List (CacheCall ε)) : StateM (Cached β ε) (List (CacheAnswer ε)) :=
  calls.mapM c.call

def keyIn (c : EntityCache β ε) : CacheCall ε → EntityKey
  | .startCaching key | .stopCaching key | .load key => key
  | .store entity => c.keyOf entity

/-- The entity that a call hands on to the backing, if there is one. -/
def passed (c : EntityCache β ε) (s : Cached β ε) : CacheCall ε → Option ε
  | .stopCaching key => s.held? (c.normalize key)
  | .store entity => if c.isCaching s (c.keyOf entity) then none else some entity
  | _ => none

variable {c : EntityCache β ε} {s : Cached β ε} {call : CacheCall ε} {key other : EntityKey} {entity : ε}

theorem held?_of_off (off : c.isCaching s key = false) : s.held? (c.normalize key) = none := by
  have absent : s.slots.find? (c.normalize key) = none := by simpa [isCaching, Table.contains] using off
  simp [Cached.held?, absent]

@[simp] theorem held?_startCaching : (c.startCaching key s).2.held? other = s.held? other := by
  rw [startCaching_apply]
  split
  · rfl
  · rename_i off
    by_cases here : c.normalize key = other
    · have absent : s.held? (c.normalize key) = none := held?_of_off (by simpa using off)
      rw [← here, absent]
      simp [Cached.held?, Table.find?_insert]
    · simp [Cached.held?, Table.find?_insert, here]

@[simp] theorem backing_startCaching : (c.startCaching key s).2.backing = s.backing := by
  rw [startCaching_apply]
  split <;> rfl

/-- Where an entity that is held after a call comes from. -/
theorem held_call (found : (c.call call s).2.held? key = some entity) :
    s.held? key = some entity ∨
      (c.load key s.backing).1 = .ok entity ∧ (∃ asked, call = .load asked ∧ c.normalize asked = key) ∨
      call = .store entity ∧ c.normalize (c.keyOf entity) = key := by
  cases call with
  | startCaching asked => exact .inl (by simpa [call] using found)
  | stopCaching asked =>
      refine .inl ?_
      simp only [EntityCache.call, Computation.map_apply] at found
      cases held : s.held? (c.normalize asked) with
      | none => rwa [stopCaching_absent held] at found
      | some kept =>
          rcases stored : c.store kept s.backing with ⟨_ | _, after⟩
          · rwa [stopCaching_failed held stored] at found
          · rw [stopCaching_stored held stored, Cached.held?_erase] at found
            split at found
            · cases found
            · exact found
  | load asked =>
      simp only [EntityCache.call, Computation.map_apply] at found
      cases held : s.held? (c.normalize asked) with
      | some kept => exact .inl (by rwa [read_held held] at found)
      | none =>
          rcases loaded : c.load (c.normalize asked) s.backing with ⟨_ | read, after⟩
          · exact .inl (by rwa [read_failed held loaded] at found)
          · rw [read_loaded held loaded] at found
            split at found
            · rw [Cached.held?_hold] at found
              split at found
              · rename_i here
                cases found
                exact .inr (.inl ⟨by rw [← here, loaded], asked, rfl, here⟩)
              · exact .inl found
            · exact .inl found
  | store kept =>
      simp only [EntityCache.call, Computation.map_apply] at found
      cases on : c.isCaching s (c.keyOf kept) with
      | false => exact .inl (by rwa [write_through on] at found)
      | true =>
          rw [write_cached on, Cached.held?_hold] at found
          split at found
          · rename_i here
            cases found
            exact .inr (.inr ⟨rfl, here⟩)
          · exact .inl found

/-- What a call does to the backing: nothing, a load, or storing what it hands on. -/
theorem backing_call (s : Cached β ε) (call : CacheCall ε) :
    (c.call call s).2.backing = s.backing ∨
      (∃ key, (c.call call s).2.backing = (c.load key s.backing).2) ∨
      ∃ entity, c.passed s call = some entity ∧ (c.call call s).2.backing = (c.store entity s.backing).2 := by
  cases call with
  | startCaching key => exact .inl backing_startCaching
  | stopCaching key =>
      simp only [EntityCache.call, Computation.map_apply]
      cases held : s.held? (c.normalize key) with
      | none => exact .inl (by rw [stopCaching_absent held])
      | some kept =>
          refine .inr (.inr ⟨kept, held, ?_⟩)
          rcases stored : c.store kept s.backing with ⟨_ | _, after⟩
          · rw [stopCaching_failed held stored]
          · rw [stopCaching_stored held stored]
  | load key =>
      simp only [EntityCache.call, Computation.map_apply]
      cases held : s.held? (c.normalize key) with
      | some kept => exact .inl (by rw [read_held held])
      | none =>
          refine .inr (.inl ⟨c.normalize key, ?_⟩)
          rcases loaded : c.load (c.normalize key) s.backing with ⟨_ | read, after⟩
          · rw [read_failed held loaded]
          · rw [read_loaded held loaded]
            split <;> rfl
  | store kept =>
      simp only [EntityCache.call, Computation.map_apply]
      cases on : c.isCaching s (c.keyOf kept) with
      | true => exact .inl (by rw [write_cached on]; rfl)
      | false => exact .inr (.inr ⟨kept, by simp [passed, on], by rw [write_through on]⟩)

@[simp] theorem callAll_nil (s : Cached β ε) : c.callAll [] s = ([], s) := rfl

theorem callAll_cons (call : CacheCall ε) (rest : List (CacheCall ε)) (s : Cached β ε) :
    c.callAll (call :: rest) s =
      ((c.call call s).1 :: (c.callAll rest (c.call call s).2).1, (c.callAll rest (c.call call s).2).2) := by
  simp only [callAll, List.mapM_cons, Computation.bind_apply, Computation.pure_apply]

theorem callAll_append (before after : List (CacheCall ε)) (s : Cached β ε) :
    (c.callAll (before ++ after) s).2 = (c.callAll after (c.callAll before s).2).2 := by
  induction before generalizing s with
  | nil => rfl
  | cons call rest ih => simp only [List.cons_append, callAll_cons, ih]

/-- What every call keeps is there after any number of them. -/
theorem callAll_keeps (Kept : Cached β ε → Prop) {calls : List (CacheCall ε)} {s : Cached β ε}
    (step : ∀ call ∈ calls, ∀ s, Kept s → Kept (c.call call s).2) (kept : Kept s) :
    Kept (c.callAll calls s).2 := by
  induction calls generalizing s with
  | nil => exact kept
  | cons call rest ih =>
      rw [List.forall_mem_cons] at step
      rw [callAll_cons]
      exact ih step.2 (step.1 s kept)

end EntityCache

end Switchboard
