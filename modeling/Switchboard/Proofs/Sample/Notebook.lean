import Switchboard.Proofs.Entity.CacheView
import Switchboard.Sample.Notes

namespace Switchboard.Sample

/-! What is seen of notes through their cache. -/

namespace Journaled

def view (encode : ρ → Json) {inner : EntityStorage β ρ} (v : inner.View) :
    (Journaled.storage encode inner).View where
  record j := v.record j.backing
  load_ok loaded := v.load_ok loaded
  load_kept key j := v.load_kept key j.backing
  store_ok stored := v.store_ok stored
  store_failed failed := v.store_failed failed

end Journaled

namespace Note

/-- Each note is written down as a whole. -/
def keeping (multitenant : Bool) : (cache multitenant).Keeping storage where
  read key found := found.getD ⟨key, .null⟩
  written := id
  load _ _ := rfl
  store _ _ := rfl

def view (multitenant : Bool) : (cache multitenant).View id :=
  (keeping multitenant).view (Journaled.view _ (Faulty.view MemoryRecords.view)) id (congrArg Note.key)
    fun _ => rfl

def notebook (loading storing : Faults) : Journaled (Faulty (MemoryRecords Note)) :=
  ⟨⟨.empty, loading, storing⟩, []⟩

theorem own_notebook (multitenant : Bool) (loading storing : Faults) :
    (view multitenant).Own (notebook loading storing) := by
  intro key note found
  cases found
  rfl

def Faultless (n : Journaled (Faulty (MemoryRecords Note))) : Prop :=
  ∀ call, n.backing.loading.failure call = none ∧ n.backing.storing.failure call = none

theorem reliable (multitenant : Bool) : (cache multitenant).Reliable Faultless where
  load {n} faultless key := by
    have passes := (faultless n.backing.loading.calls).1
    simp only [cache, storage, Journaled.storage, Faulty.storage, Faults.next, passes, Computation.bind_apply]
    exact ⟨⟨_, rfl⟩, faultless⟩
  store {n} faultless note := by
    have passes := (faultless n.backing.storing.calls).2
    simp only [cache, storage, Journaled.storage, Faulty.storage, Faults.next, passes]
    exact ⟨rfl, faultless⟩

theorem faultless_notebook : Faultless (notebook .none .none) := fun _ => ⟨rfl, rfl⟩

def page : Note := ⟨.ofType "note" "page", .string "draft"⟩

/-- A page is started, and the first try to keep it fails. -/
def drafting : List (CacheCall Note) :=
  [.startCaching page.key, .load page.key, .store page, .stopCaching page.key]

def tenants : Note := { page with key := page.key.withTenant ⟨"acme"⟩ }

/-- Writes a page and reads it by the key that it has without a tenant. -/
def rereading (note : Note) : List (CacheCall Note) := [.store note, .load page.key]

def diskFull : Faults := .after 0 1 (.io "disk full")

end Note

end Switchboard.Sample
