import Switchboard.Failure
import Switchboard.Table

namespace Switchboard

/-! A cache before a place where entities are kept.

Caching is started and stopped for one key at a time. While it is on, the entity is
read once and held; what is stored is only held, and written when caching stops. -/

/-- How to reach the entities, over a backing of type `β`. -/
structure EntityCache (β ε : Type) where
  /-- Whether keys that differ in the tenant are different. If not, a tenant is dropped
  wherever an entity is looked up; the entity itself keeps its key. -/
  multitenant : Bool
  keyOf : ε → EntityKey
  load : EntityKey → StateM β (Except StorageError ε)
  store : ε → StateM β (Except StorageError Unit)

/-- A backing with the keys that caching is on for, each with the entity held, if any. -/
structure Cached (β ε : Type) where
  slots : Table EntityKey (Option ε)
  backing : β

namespace Cached

/-- Nothing is held, and caching is on for no key. -/
def cold (backing : β) : Cached β ε := ⟨.empty, backing⟩

def behind (step : StateM β α) : StateM (Cached β ε) α := fun s =>
  let (value, backing) := step s.backing
  (value, { s with backing })

def held? (s : Cached β ε) (key : EntityKey) : Option ε := (s.slots.find? key).join

def hold (s : Cached β ε) (key : EntityKey) (entity : ε) : Cached β ε :=
  { s with slots := s.slots.insert key (some entity) }

end Cached

namespace EntityCache

def normalize (c : EntityCache β ε) (key : EntityKey) : EntityKey :=
  if c.multitenant then key else { key with tenant := none }

def isCaching (c : EntityCache β ε) (s : Cached β ε) (key : EntityKey) : Bool :=
  s.slots.contains (c.normalize key)

/-- Starts caching for a key, unless it is on already. -/
def startCaching (c : EntityCache β ε) (key : EntityKey) : StateM (Cached β ε) Unit :=
  modify fun s =>
    if c.isCaching s key then s else { s with slots := s.slots.insert (c.normalize key) none }

/-- Writes the entity that is held and stops caching for its key. Caching stays on if
nothing is held or the entity cannot be written. -/
def stopCaching (c : EntityCache β ε) (key : EntityKey) :
    StateM (Cached β ε) (Except CacheError Unit) := do
  match (← get).held? (c.normalize key) with
  | none => return .error (.notCached (c.normalize key))
  | some entity =>
      match ← Cached.behind (c.store entity) with
      | .error error => return .error (.storage error)
      | .ok () =>
          modify fun s => { s with slots := s.slots.erase (c.normalize key) }
          return .ok ()

/-- The entity held for the key, or else the one read, which is held from now on if
caching is on. -/
def read (c : EntityCache β ε) (key : EntityKey) : StateM (Cached β ε) (Except StorageError ε) := do
  match (← get).held? (c.normalize key) with
  | some entity => return .ok entity
  | none =>
      match ← Cached.behind (c.load (c.normalize key)) with
      | .error error => return .error error
      | .ok entity =>
          modify fun s => if c.isCaching s key then s.hold (c.normalize key) entity else s
          return .ok entity

/-- Holds an entity under its key if caching is on for it, or else writes it. -/
def write (c : EntityCache β ε) (entity : ε) : StateM (Cached β ε) (Except StorageError Unit) := do
  if c.isCaching (← get) (c.keyOf entity) then
    modify fun s => s.hold (c.normalize (c.keyOf entity)) entity
    return .ok ()
  else Cached.behind (c.store entity)

end EntityCache

end Switchboard
