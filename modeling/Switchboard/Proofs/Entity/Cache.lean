import Switchboard.Entity.Cache
import Switchboard.Proofs.Computation

namespace Switchboard

/-! What each operation of a cache does, by what is held and how the backing answers. -/

variable {β ε : Type} {c : EntityCache β ε} {s : Cached β ε} {key : EntityKey} {entity : ε} {b : β}
  {error : StorageError}

namespace EntityCache

theorem normalize_normalize (key : EntityKey) : c.normalize (c.normalize key) = c.normalize key := by
  unfold normalize
  split <;> rfl

theorem read_held (held : s.held? (c.normalize key) = some entity) : c.read key s = (.ok entity, s) := by
  simp only [read, Computation.bind_apply, Computation.get_apply, held, Computation.pure_apply]

theorem read_failed (absent : s.held? (c.normalize key) = none)
    (failed : c.load (c.normalize key) s.backing = (.error error, b)) :
    c.read key s = (.error error, { s with backing := b }) := by
  simp only [read, Computation.bind_apply, Computation.get_apply, absent, Cached.behind, failed,
    Computation.pure_apply]

theorem read_loaded (absent : s.held? (c.normalize key) = none)
    (loaded : c.load (c.normalize key) s.backing = (.ok entity, b)) :
    c.read key s = (.ok entity,
      if c.isCaching s key then Cached.hold { s with backing := b } (c.normalize key) entity
      else { s with backing := b }) := by
  simp only [read, Computation.bind_apply, Computation.get_apply, absent, Cached.behind, loaded,
    Computation.modify_apply, Computation.pure_apply]
  rfl

theorem write_cached (on : c.isCaching s (c.keyOf entity) = true) :
    c.write entity s = (.ok (), s.hold (c.normalize (c.keyOf entity)) entity) := by
  simp only [write, Computation.bind_apply, Computation.get_apply, on, if_true,
    Computation.modify_apply, Computation.pure_apply]

theorem write_through (off : c.isCaching s (c.keyOf entity) = false) :
    c.write entity s =
      ((c.store entity s.backing).1, { s with backing := (c.store entity s.backing).2 }) := by
  simp only [write, Computation.bind_apply, Computation.get_apply, off, Bool.false_eq_true,
    if_false]
  rfl

theorem startCaching_apply :
    (c.startCaching key s).2 =
      if c.isCaching s key then s else { s with slots := s.slots.insert (c.normalize key) none } := rfl

theorem stopCaching_absent (absent : s.held? (c.normalize key) = none) :
    c.stopCaching key s = (.error (.notCached (c.normalize key)), s) := by
  simp only [stopCaching, Computation.bind_apply, Computation.get_apply, absent,
    Computation.pure_apply]

theorem stopCaching_failed (held : s.held? (c.normalize key) = some entity)
    (failed : c.store entity s.backing = (.error error, b)) :
    c.stopCaching key s = (.error (.storage error), { s with backing := b }) := by
  simp only [stopCaching, Computation.bind_apply, Computation.get_apply, held, Cached.behind,
    failed, Computation.pure_apply]

theorem stopCaching_stored (held : s.held? (c.normalize key) = some entity)
    (stored : c.store entity s.backing = (.ok (), b)) :
    c.stopCaching key s = (.ok (), ⟨s.slots.erase (c.normalize key), b⟩) := by
  simp only [stopCaching, Computation.bind_apply, Computation.get_apply, held, Cached.behind,
    stored, Computation.modify_apply, Computation.pure_apply]

end EntityCache

end Switchboard
