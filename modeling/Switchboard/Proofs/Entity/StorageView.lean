import Switchboard.Entity.Storage
import Switchboard.Proofs.Computation

namespace Switchboard

/-! What a storage keeps, whatever it keeps it in. -/

variable {β ρ : Type}

namespace EntityStorage

/-- What is recorded under each key. A call that succeeds does what it says, and one that
fails changes no record. -/
structure View (storage : EntityStorage β ρ) where
  record : β → EntityKey → Option ρ
  load_ok : ∀ {key b found}, (storage.load key b).1 = .ok found → found = record b key
  load_kept : ∀ key b, record (storage.load key b).2 = record b
  store_ok : ∀ {key value b}, (storage.store key value b).1 = .ok () →
    record (storage.store key value b).2 = fun other => if other = key then some value else record b other
  store_failed : ∀ {key value b error}, (storage.store key value b).1 = .error error →
    record (storage.store key value b).2 = record b

structure Reliable (storage : EntityStorage β ρ) : Prop where
  load : ∀ key b, ∃ found, (storage.load key b).1 = .ok found
  store : ∀ key value b, (storage.store key value b).1 = .ok ()

end EntityStorage

inductive StorageCall where
  | load (key : EntityKey)
  | store (key : EntityKey)
deriving DecidableEq, Repr

/-- A backing that tells which calls have been made, in their order. -/
structure EntityStorage.Log (storage : EntityStorage β ρ) where
  calls : β → List StorageCall
  load : ∀ key b, calls (storage.load key b).2 = calls b ++ [.load key]
  store : ∀ key value b, calls (storage.store key value b).2 = calls b ++ [.store key]

namespace MemoryRecords

def view : (storage : EntityStorage (MemoryRecords ρ) ρ).View where
  record m := m.records.find?
  load_ok found := by
    simp only [storage, Except.ok.injEq] at found
    exact found.symm
  load_kept _ _ := rfl
  store_ok _ := by
    funext other
    simp only [storage, Table.find?_insert, eq_comm]
  store_failed failed := by simp [storage] at failed

theorem reliable : (storage : EntityStorage (MemoryRecords ρ) ρ).Reliable where
  load _ _ := ⟨_, rfl⟩
  store _ _ _ := rfl

end MemoryRecords

namespace Faulty

/-- Faults hide no record and make none. -/
def view {inner : EntityStorage β ρ} (v : inner.View) : (Faulty.storage inner).View where
  record f := v.record f.backing
  load_ok {key f found} loaded := by
    rcases fault : f.loading.next with ⟨_ | error, loading⟩
    · simp only [storage, fault] at loaded
      exact v.load_ok loaded
    · simp [storage, fault] at loaded
  load_kept key f := by
    rcases fault : f.loading.next with ⟨_ | error, loading⟩
    · simp only [storage, fault]
      exact v.load_kept key f.backing
    · simp only [storage, fault]
  store_ok {key value f} stored := by
    rcases fault : f.storing.next with ⟨_ | error, storing⟩
    · simp only [storage, fault] at stored ⊢
      exact v.store_ok stored
    · simp [storage, fault] at stored
  store_failed {key value f error} failed := by
    rcases fault : f.storing.next with ⟨_ | error, storing⟩
    · simp only [storage, fault] at failed ⊢
      exact v.store_failed failed
    · simp only [storage, fault]

end Faulty

/-- A backing and the calls that its storage has got. -/
structure Logged (β : Type) where
  backing : β
  calls : List StorageCall

namespace Logged

/-- The storage with all calls counted, those that fail as well. -/
def storage (inner : EntityStorage β ρ) : EntityStorage (Logged β) ρ where
  load key := fun l =>
    let (result, backing) := inner.load key l.backing
    (result, ⟨backing, l.calls ++ [.load key]⟩)
  store key value := fun l =>
    let (result, backing) := inner.store key value l.backing
    (result, ⟨backing, l.calls ++ [.store key]⟩)

def log (inner : EntityStorage β ρ) : (Logged.storage inner).Log where
  calls := Logged.calls
  load _ _ := rfl
  store _ _ _ := rfl

def view {inner : EntityStorage β ρ} (v : inner.View) : (Logged.storage inner).View where
  record l := v.record l.backing
  load_ok loaded := v.load_ok loaded
  load_kept key l := v.load_kept key l.backing
  store_ok stored := v.store_ok stored
  store_failed failed := v.store_failed failed

theorem reliable {inner : EntityStorage β ρ} (r : inner.Reliable) : (Logged.storage inner).Reliable where
  load key l := r.load key l.backing
  store key value l := r.store key value l.backing

end Logged

end Switchboard
