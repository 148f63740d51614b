import Switchboard.Failure
import Switchboard.Table

namespace Switchboard

/-! Where the records of entities are kept. -/

structure EntityStorage (β ρ : Type) where
  load : EntityKey → StateM β (Except StorageError (Option ρ))
  store : EntityKey → ρ → StateM β (Except StorageError Unit)

/-- Records in memory, and how often they have been read and written. -/
structure MemoryRecords (ρ : Type) where
  records : Table EntityKey ρ
  loads : Nat
  stores : Nat

namespace MemoryRecords

def empty : MemoryRecords ρ := ⟨.empty, 0, 0⟩

def storage : EntityStorage (MemoryRecords ρ) ρ where
  load key := fun m => (.ok (m.records.find? key), { m with loads := m.loads + 1 })
  store key record := fun m =>
    (.ok (), { m with records := m.records.insert key record, stores := m.stores + 1 })

end MemoryRecords

/-- Which of the calls to come fail, by how many have been made. -/
structure Faults where
  failure : Nat → Option StorageError
  calls : Nat

namespace Faults

def none : Faults := ⟨fun _ => .none, 0⟩

/-- Lets `skip` calls pass, then fails `times` calls. -/
def after (skip times : Nat) (error : StorageError) : Faults where
  failure call := if skip ≤ call ∧ call < skip + times then some error else .none
  calls := 0

def next (f : Faults) : Option StorageError × Faults :=
  (f.failure f.calls, { f with calls := f.calls + 1 })

end Faults

structure Faulty (β : Type) where
  backing : β
  loading : Faults
  storing : Faults

namespace Faulty

def reliable (backing : β) : Faulty β := ⟨backing, .none, .none⟩

def replace (f : Faulty β) (call : String) (faults : Faults) : Faulty β :=
  if call = "store" then { f with storing := faults } else { f with loading := faults }

/-- The storage with some calls failing. A call that fails does not reach the backing. -/
def storage (inner : EntityStorage β ρ) : EntityStorage (Faulty β) ρ where
  load key := fun f =>
    match f.loading.next with
    | (some error, loading) => (.error error, { f with loading })
    | (.none, loading) =>
        let (result, backing) := inner.load key f.backing
        (result, { f with backing, loading })
  store key record := fun f =>
    match f.storing.next with
    | (some error, storing) => (.error error, { f with storing })
    | (.none, storing) =>
        let (result, backing) := inner.store key record f.backing
        (result, { f with backing, storing })

end Faulty

end Switchboard
