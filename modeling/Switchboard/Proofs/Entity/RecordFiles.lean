import Switchboard.Entity.RecordFiles
import Switchboard.Proofs.Entity.Tenancy
import Switchboard.Proofs.FileSystem

namespace Switchboard

/-! Which entities have a file in common, and what that does to their records.

The directory of entities without a tenant has a name that a tenant may have as well. -/

variable {ρ : Type} {r : RecordFiles ρ} {key other : EntityKey} {path place : List String} {fs : FileSystem}

namespace EntityKey

/-- Without a tenant, or with the one that is named like the directory for those without. -/
def Shared (key : EntityKey) : Prop := key.tenant = none ∨ key.tenant = some ⟨sharedDirectory⟩

/-- Nothing but that one tenant and none are taken for each other. -/
def Collides (key other : EntityKey) : Prop :=
  key.Namesakes other ∧ (key.tenant = other.tenant ∨ key.Shared ∧ other.Shared)

instance (key : EntityKey) : Decidable key.Shared := inferInstanceAs (Decidable (_ ∨ _))

instance (key other : EntityKey) : Decidable (key.Collides other) :=
  inferInstanceAs (Decidable ((key.type = other.type ∧ key.id = other.id) ∧ (_ ∨ _ ∧ _)))

theorem directoryOfTenant_eq_iff :
    key.directoryOfTenant = other.directoryOfTenant ↔ key.tenant = other.tenant ∨ key.Shared ∧ other.Shared := by
  obtain ⟨_ | ⟨⟨name⟩⟩, _, _⟩ := key <;> obtain ⟨_ | ⟨⟨name'⟩⟩, _, _⟩ := other <;>
    simp only [directoryOfTenant, Shared, reduceCtorEq, Option.some.injEq, TenantId.mk.injEq, true_or, false_or,
      true_and, and_true, or_false]
  · exact eq_comm
  · exact ⟨.inl, fun same => same.elim (·) fun both => both.1.trans both.2.symm⟩

end EntityKey

namespace RecordFiles

theorem recordPath_ok : r.recordPath key = .ok path ↔
    key.fault = none ∧ path = r.base ++ key.directory ++ [key.id ++ ".json"] := by
  cases faulty : key.fault <;> simp [recordPath, faulty, eq_comm]

theorem recordPath_eq_iff (filed : r.recordPath key = .ok path) (elsewhere : r.recordPath other = .ok place) :
    path = place ↔ key.Collides other := by
  obtain ⟨-, rfl⟩ := recordPath_ok.mp filed
  obtain ⟨-, rfl⟩ := recordPath_ok.mp elsewhere
  have parts : r.base ++ key.directory ++ [key.id ++ ".json"] = r.base ++ other.directory ++ [other.id ++ ".json"] ↔
      key.directoryOfTenant = other.directoryOfTenant ∧ key.type = other.type ∧ key.id = other.id := by
    simp [EntityKey.directory]
  rw [parts, EntityKey.directoryOfTenant_eq_iff, EntityKey.Collides, EntityKey.Namesakes]
  exact and_comm

/-- No record is where another one is written first. -/
theorem temporaryPath_ne (elsewhere : r.recordPath other = .ok place) : r.temporaryPath key ≠ place := by
  obtain ⟨-, rfl⟩ := recordPath_ok.mp elsewhere
  intro same
  have names : key.id ++ ".json.tmp" = other.id ++ ".json" :=
    List.singleton_inj.mp (List.append_inj_right' same rfl)
  have letters := congrArg (fun name => name.toList.getLast?) names
  simp [List.getLast?_append] at letters

/-- Whether or not a record comes to be written, what is neither in the way nor under one of
the two paths stays. -/
theorem store_filed (proper : fs.Proper) (filed : r.recordPath key = .ok path) (record : ρ) :
    (r.store key record fs).2.Proper ∧
    (∀ file, path ≠ file → r.temporaryPath key ≠ file →
      (r.store key record fs).2.node? file = fs.node? file ∨ file <+: r.base ++ key.directory) ∧
    ((r.store key record fs).1 = .ok () →
      (r.store key record fs).2.node? path = some (.file ((r.encode record).pretty 0))) := by
  rw [store, filed]
  obtain ⟨-, rfl⟩ := recordPath_ok.mp filed
  have made := proper.makeDirectories [] (r.base ++ key.directory)
  simp only [List.dropLast_concat]
  split
  case h_1 error ready tried =>
    simp only [tried] at made
    exact ⟨made.1, fun file _ _ => (made.2 file).imp id And.left, nofun⟩
  case h_2 ready tried =>
    simp only [tried, List.nil_append] at made
    obtain ⟨proper, made⟩ := made
    split
    case h_1 => exact ⟨proper, fun file _ _ => (made file).imp id And.left, nofun⟩
    case h_2 written tried =>
      obtain ⟨proper, wrote⟩ : written.Proper ∧ ∀ file, written.node? file =
          if r.temporaryPath key = file then some (.file ((r.encode record).pretty 0)) else ready.node? file :=
        proper.write tried
      have kept : ∀ file, r.temporaryPath key ≠ file →
          written.node? file = fs.node? file ∨ file <+: r.base ++ key.directory := by
        intro file aside
        rw [wrote, if_neg aside]
        exact (made file).imp id And.left
      split
      case h_1 => exact ⟨proper, fun file _ aside => kept file aside, nofun⟩
      case h_2 renamed tried =>
        obtain ⟨proper, content, read, moved⟩ := proper.rename tried
        rw [wrote, if_pos rfl] at read
        cases read
        refine ⟨proper, fun file beside aside => ?_, fun _ => ?_⟩
        · rw [moved, if_neg beside, if_neg aside]
          exact kept file aside
        · rw [moved, if_pos rfl]

theorem store_refused {error : StorageError} (refused : r.recordPath key = .error error) (record : ρ)
    (fs : FileSystem) : r.store key record fs = (.error error, fs) := by
  rw [store, refused]

theorem store_proper (proper : fs.Proper) (r : RecordFiles ρ) (key : EntityKey) (record : ρ) :
    (r.store key record fs).2.Proper := by
  cases filed : r.recordPath key with
  | error error => rwa [store_refused filed]
  | ok path => exact (store_filed proper filed record).1

/-- The record of another entity stays where it is, or is still missing. -/
theorem store_elsewhere (proper : fs.Proper) (apart : ¬ key.Collides other)
    (elsewhere : r.recordPath other = .ok place) (record : ρ) :
    (r.store key record fs).2.node? place = fs.node? place := by
  cases filed : r.recordPath key with
  | error error => rw [store_refused filed]
  | ok path =>
      have beside : path ≠ place := fun same => apart ((recordPath_eq_iff filed elsewhere).mp same)
      obtain ⟨-, kept, -⟩ := store_filed proper filed record
      refine (kept place beside (temporaryPath_ne elsewhere)).resolve_right fun above => ?_
      obtain ⟨-, rfl⟩ := recordPath_ok.mp elsewhere
      have shorter := above.length_le
      simp [EntityKey.directory] at shorter

/-- What is found is what the file says. -/
theorem load_found (elsewhere : r.recordPath other = .ok place) {found : ρ} :
    r.load other fs = .ok (some found) ↔ ∃ text, fs.read place = .ok text ∧ r.decode.ofText text = .ok found := by
  rw [load, elsewhere]
  dsimp only
  cases read : fs.read place with
  | error error => cases error <;> simp
  | ok text => cases decoded : r.decode.ofText text <;> simp [decoded]

/-- The files after these records have been written one after another, as far as they could be. -/
def storeAll (r : RecordFiles ρ) (records : List (EntityKey × ρ)) (fs : FileSystem) : FileSystem :=
  records.foldl (fun fs entry => (r.store entry.1 entry.2 fs).2) fs

theorem storeAll_elsewhere (proper : fs.Proper) (elsewhere : r.recordPath other = .ok place)
    {records : List (EntityKey × ρ)} (apart : ∀ entry ∈ records, ¬ entry.1.Collides other) :
    (r.storeAll records fs).Proper ∧ (r.storeAll records fs).node? place = fs.node? place := by
  induction records generalizing fs with
  | nil => exact ⟨proper, rfl⟩
  | cons entry rest ih =>
      obtain ⟨first, others⟩ := List.forall_mem_cons.mp apart
      obtain ⟨after, kept⟩ := ih (store_proper proper r entry.1 entry.2) others
      exact ⟨after, kept.trans (store_elsewhere proper first elsewhere entry.2)⟩

/-- Different entities have one file only if they are namesakes, one without a tenant and one of
the tenant that is named like the shared directory. Then each finds the record of the other, and
writes over it. The record of an entity is neither lost nor found by what is written for any that
do not share its file. -/
theorem shared_tenant_collides (r : RecordFiles ρ) (filed : r.recordPath key = .ok path)
    (elsewhere : r.recordPath other = .ok place) :
    (path = place ↔ key.Collides other) ∧
    (key.Collides other → ∀ fs, r.load key fs = r.load other fs ∧ ∀ record, fs.Proper →
      (r.store key record fs).1 = .ok () →
        (r.store key record fs).2.read place = .ok ((r.encode record).pretty 0)) ∧
    ∀ fs records, fs.Proper → (∀ entry ∈ records, ¬ entry.1.Collides other) →
      ∀ found, r.load other (r.storeAll records fs) = .ok (some found) ↔ r.load other fs = .ok (some found) := by
  refine ⟨recordPath_eq_iff filed elsewhere, fun collides fs => ?_, fun fs records proper apart found => ?_⟩
  · have same : path = place := (recordPath_eq_iff filed elsewhere).mpr collides
    subst same
    refine ⟨by rw [load, load, filed, elsewhere], fun record proper stored => ?_⟩
    obtain ⟨proper, -, written⟩ := store_filed proper filed record
    exact proper.read_ok.mpr (written stored)
  · obtain ⟨after, kept⟩ := storeAll_elsewhere proper elsewhere apart
    simp only [load_found elsewhere, proper.read_ok, after.read_ok, kept]

namespace Drawer

def files : RecordFiles String := ⟨["data"], .string, .string⟩

def noteOf (tenant : Option TenantId) : EntityKey := ⟨tenant, "note", "p"⟩

def shared : List String := ["data", "entities", "_shared", "note", "p.json"]

end Drawer

/-- A note of that tenant is written where notes without a tenant are. Another tenant's does not
take the place of one that is there. -/
theorem shared_tenant_collides_drawer :
    (Drawer.files.store (Drawer.noteOf (some ⟨"_shared"⟩)) "theirs" .empty).2.read Drawer.shared =
      .ok "\"theirs\"" ∧
    Drawer.files.load (Drawer.noteOf none)
      (Drawer.files.storeAll [(Drawer.noteOf (some ⟨"acme"⟩), "theirs")]
        (Drawer.files.store (Drawer.noteOf none) "ours" .empty).2) = .ok (some "ours") := by
  have filed : Drawer.files.recordPath (Drawer.noteOf (some ⟨"_shared"⟩)) = .ok Drawer.shared := by decide +kernel
  have elsewhere : Drawer.files.recordPath (Drawer.noteOf none) = .ok Drawer.shared := by decide +kernel
  obtain ⟨-, meet, apart⟩ := shared_tenant_collides Drawer.files filed elsewhere
  obtain ⟨-, overwritten⟩ := meet (by decide) .empty
  have proper := store_proper FileSystem.empty_proper Drawer.files (Drawer.noteOf none) "ours"
  exact ⟨overwritten "theirs" FileSystem.empty_proper (by decide +kernel),
    (apart _ [(Drawer.noteOf (some ⟨"acme"⟩), "theirs")] proper (by decide) "ours").mpr (by decide +kernel)⟩

/-- A note without a tenant is read by the tenant of that name, and lost once that tenant writes. -/
theorem shared_tenant_overwrites :
    Drawer.noteOf none ≠ Drawer.noteOf (some ⟨"_shared"⟩) ∧
    Drawer.files.recordPath (Drawer.noteOf none) = .ok Drawer.shared ∧
    Drawer.files.recordPath (Drawer.noteOf (some ⟨"_shared"⟩)) = .ok Drawer.shared ∧
    let ours := (Drawer.files.store (Drawer.noteOf none) "ours" .empty).2
    let theirs := (Drawer.files.store (Drawer.noteOf (some ⟨"_shared"⟩)) "theirs" ours).2
    Drawer.files.load (Drawer.noteOf (some ⟨"_shared"⟩)) ours = .ok (some "ours") ∧
      Drawer.files.load (Drawer.noteOf none) theirs = .ok (some "theirs") := by
  refine ⟨by decide, by decide +kernel, by decide +kernel, ?_, ?_⟩ <;> decide +kernel

end RecordFiles

end Switchboard
