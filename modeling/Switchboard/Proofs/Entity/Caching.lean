import Switchboard.Proofs.Entity.Calls

namespace Switchboard

/-! How caching goes on and off for a key, and when an entity is held. -/

inductive Caching where
  | off
  /-- On, with nothing held yet. -/
  | waiting
  | holding
deriving DecidableEq, Repr

variable {β ε : Type}

namespace Caching

def of : Option (Option ε) → Caching
  | none => .off
  | some none => .waiting
  | some (some _) => .holding

def started : Caching → Caching
  | .off => .waiting
  | caching => caching

/-- An entity has come that is held if caching is on. -/
def filled : Caching → Caching
  | .off => .off
  | .waiting | .holding => .holding

end Caching

def Cached.caching (s : Cached β ε) (key : EntityKey) : Caching := .of (s.slots.find? key)

namespace EntityCache

variable {c : EntityCache β ε} {s : Cached β ε} {key other : EntityKey} {entity : ε} {call : CacheCall ε}

theorem isCaching_iff : c.isCaching s key = true ↔ s.caching (c.normalize key) ≠ .off := by
  rcases slot : s.slots.find? (c.normalize key) with _ | _ | entity <;>
    simp [isCaching, Table.contains, Cached.caching, Caching.of, slot]

theorem isCaching_eq_false : c.isCaching s key = false ↔ s.caching (c.normalize key) = .off := by
  rcases slot : s.slots.find? (c.normalize key) with _ | _ | entity <;>
    simp [isCaching, Table.contains, Cached.caching, Caching.of, slot]

theorem holding_iff : s.caching key = .holding ↔ ∃ entity, s.held? key = some entity := by
  rcases slot : s.slots.find? key with _ | _ | entity <;>
    simp [Cached.caching, Caching.of, Cached.held?, slot]

theorem caching_hold :
    (s.hold key entity).caching other = if other = key then .holding else s.caching other := by
  by_cases here : other = key
  · simp [Cached.caching, Cached.hold, Table.find?_insert, here, Caching.of]
  · simp [Cached.caching, Cached.hold, Table.find?_insert, Ne.symm here, here]

/-- Holding what comes for a key fills its place, if caching is on, and else there is none. -/
theorem caching_filled :
    (if c.isCaching s key then s.hold (c.normalize key) entity else s).caching other =
      if other = c.normalize key then (s.caching other).filled else s.caching other := by
  split
  · rename_i on
    rw [caching_hold]
    split
    · rename_i here
      subst here
      cases before : s.caching (c.normalize key) with
      | off => exact absurd before (isCaching_iff.mp on)
      | waiting => rfl
      | holding => rfl
    · rfl
  · rename_i off
    split
    · rename_i here
      subst here
      rw [isCaching_eq_false.mp (by simpa using off)]
      rfl
    · rfl

theorem caching_startCaching :
    (c.startCaching key s).2.caching other =
      if other = c.normalize key then (s.caching other).started else s.caching other := by
  by_cases here : other = c.normalize key
  · rcases slot : s.slots.find? (c.normalize key) with _ | _ | entity <;>
      simp [startCaching_apply, isCaching, Table.contains, Cached.caching, slot, here, Caching.of, Caching.started,
        Table.find?_insert]
  · rw [startCaching_apply, if_neg here]
    split
    · rfl
    · simp [Cached.caching, Table.find?_insert, Ne.symm here]

theorem caching_stopCaching :
    (c.stopCaching key s).2.caching other =
      if (c.stopCaching key s).1.isOk ∧ other = c.normalize key then .off else s.caching other := by
  cases held : s.held? (c.normalize key) with
  | none => simp [stopCaching_absent held, Except.isOk, Except.toBool]
  | some kept =>
      rcases stored : c.store kept s.backing with ⟨_ | _, after⟩
      · simp [stopCaching_failed held stored, Cached.caching, Except.isOk, Except.toBool]
      · rw [stopCaching_stored held stored]
        by_cases here : other = c.normalize key
        · simp [Cached.caching, Table.find?_erase, here, Caching.of, Except.isOk, Except.toBool]
        · simp [Cached.caching, Table.find?_erase, Ne.symm here, here]

theorem caching_read :
    (c.read key s).2.caching other =
      if (c.read key s).1.isOk ∧ other = c.normalize key then (s.caching other).filled else s.caching other := by
  cases held : s.held? (c.normalize key) with
  | some kept =>
      rw [read_held held]
      split
      · rename_i here
        rw [here.2, holding_iff.mpr ⟨kept, held⟩]
        rfl
      · rfl
  | none =>
      rcases loaded : c.load (c.normalize key) s.backing with ⟨_ | found, after⟩
      · simp [read_failed held loaded, Cached.caching, Except.isOk, Except.toBool]
      · rw [read_loaded held loaded]
        simp only [Except.isOk, Except.toBool, true_and]
        exact caching_filled (s := { s with backing := after })

theorem caching_write :
    (c.write entity s).2.caching other =
      if other = c.normalize (c.keyOf entity) then (s.caching other).filled else s.caching other := by
  rw [← caching_filled]
  cases on : c.isCaching s (c.keyOf entity) with
  | true => rw [write_cached on, if_pos rfl]
  | false => rw [write_through on, if_neg Bool.false_ne_true]; rfl

/-- Caching stays off for a key until a call starts it. -/
theorem caching_call (off : s.caching key = .off)
    (other : ∀ asked, call = .startCaching asked → c.normalize asked ≠ key) :
    (c.call call s).2.caching key = .off := by
  cases call with
  | startCaching asked =>
      simp only [EntityCache.call, Computation.map_apply, caching_startCaching]
      rw [if_neg (Ne.symm (other asked rfl)), off]
  | stopCaching asked =>
      simp only [EntityCache.call, Computation.map_apply, caching_stopCaching, off, ite_self]
  | load asked =>
      simp only [EntityCache.call, Computation.map_apply, caching_read, off, Caching.filled, ite_self]
  | store entity =>
      simp only [EntityCache.call, Computation.map_apply, caching_write, off, Caching.filled, ite_self]

end EntityCache

end Switchboard
