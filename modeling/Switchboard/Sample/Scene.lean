import Switchboard.Bus.Monitor
import Switchboard.Entity.RecordFiles
import Switchboard.Repository.Basic
import Switchboard.Sample.Journal
import Switchboard.Sample.Lab.Model
import Switchboard.Signal.Store

namespace Switchboard.Sample

/-! A scene: everything outside of a bus of the sample, with a journal of what happens. -/

/-- Records in memory and in files, side by side. -/
structure Records (σ : Type) where
  memory : MemoryRecords (Snapshot σ)
  files : FileSystem

namespace Records

def inMemory : Place (Records σ) (MemoryRecords (Snapshot σ)) where
  get := memory
  set memory r := { r with memory }
  get_set _ _ := rfl
  set_get _ := rfl
  set_set _ _ _ := rfl

def inFiles : Place (Records σ) FileSystem where
  get := files
  set files r := { r with files }
  get_set _ _ := rfl
  set_get _ := rfl
  set_set _ _ _ := rfl

end Records

/-- A storage whose backing is a part of a larger one. -/
def storageWithin (p : Place β γ) (inner : EntityStorage γ ρ) : EntityStorage β ρ where
  load key := p.within (inner.load key)
  store key record := p.within (inner.store key record)

/-- The backing of a repository: records, faults and the journal. -/
abbrev Backing (σ : Type) := Journaled (Faulty (Records σ))

/-- The snapshots of a model, in memory or in files below a directory. -/
def storage (encode : σ → Json) (decode : Decoder σ) (directory : Option (List String)) :
    EntityStorage (Backing σ) (Snapshot σ) :=
  let records : EntityStorage (Records σ) (Snapshot σ) :=
    match directory with
    | none => storageWithin Records.inMemory MemoryRecords.storage
    | some base => storageWithin Records.inFiles
        (RecordFiles.mk base (Snapshot.encode encode) (Snapshot.decode decode)).storage
  Journaled.storage (Snapshot.encode encode) (Faulty.storage records)

structure Depot (σ : Type) where
  slots : Table EntityKey (Option (Root σ))
  actors : Actors
  sent : Nat
  memory : MemoryRecords (Snapshot σ)
  loading : Faults
  storing : Faults

namespace Depot

def empty : Depot σ := ⟨.empty, .empty, 0, .empty, .none, .none⟩

def enter (d : Depot σ) (files : FileSystem) (journal : List Occurrence) :
    RepositoryState (Backing σ) σ :=
  ⟨⟨d.slots, ⟨⟨⟨d.memory, files⟩, d.loading, d.storing⟩, journal⟩⟩, d.actors, d.sent⟩

def leave (r : RepositoryState (Backing σ) σ) : Depot σ :=
  let faulty := r.cached.backing.backing
  ⟨r.cached.slots, r.actors, r.sent, faulty.backing.memory, faulty.loading, faulty.storing⟩

end Depot

/-- The repositories of one model by name, and what they share with all others. -/
structure Shelf (σ : Type) where
  depots : String → Depot σ
  files : FileSystem
  journal : List Occurrence

namespace Shelf

/-- The state of the repository of that name. -/
def repository (name : String) : Place (Shelf σ) (RepositoryState (Backing σ) σ) where
  get s := (s.depots name).enter s.files s.journal
  set r s := {
    depots := fun other => if other = name then .leave r else s.depots other
    files := r.cached.backing.backing.backing.files
    journal := r.cached.backing.journal }
  get_set r s := by simp [Depot.enter, Depot.leave]
  set_get s := by
    obtain ⟨depots, files, journal⟩ := s
    simp only [Shelf.mk.injEq]
    refine ⟨funext fun other => ?_, rfl, rfl⟩
    by_cases same : other = name
    · subst same
      simp [Depot.enter, Depot.leave]
    · simp [same]
  set_set r r' s := by
    simp only [Shelf.mk.injEq, and_true]
    funext other
    by_cases same : other = name <;> simp [same]

end Shelf

/-- Which calls of the signal store fail. -/
structure StoreFaults where
  saving : Faults
  recording : Faults
  scheduling : Faults
  claiming : Faults

namespace StoreFaults

def none : StoreFaults := ⟨.none, .none, .none, .none⟩

def replace (f : StoreFaults) (call : String) (faults : Faults) : StoreFaults :=
  match call with
  | "save" => { f with saving := faults }
  | "record" => { f with recording := faults }
  | "scheduled" => { f with scheduling := faults }
  | _ => { f with claiming := faults }

end StoreFaults

structure Scene where
  journal : List Occurrence
  ledger : SignalLedger
  /-- The ledger of a bus that is not given one. -/
  spare : SignalLedger
  faults : StoreFaults
  /-- Signals that somebody else claims right before the bus. -/
  rivals : List SignalId
  /-- How often each script has been called. -/
  calls : Nat → Nat
  files : FileSystem
  accounts : String → Depot Account
  labs : String → Depot Lab
  unwired : String → Depot Unwired

namespace Scene

def empty : Scene where
  journal := []
  ledger := .empty
  spare := .empty
  faults := .none
  rivals := []
  calls _ := 0
  files := .empty
  accounts _ := .empty
  labs _ := .empty
  unwired _ := .empty

def note (occurrence : Occurrence) : StateM Scene Unit :=
  modify fun s => { s with journal := s.journal ++ [occurrence] }

def observer : Observer Scene := .recording fun ack => note (.acknowledged ack)

def announce (event : Signal) : StateM Scene Unit := note (.announced event)

/-- A computation with a journal of its own. -/
def journaling (act : Act Scene α) : Act Scene (α × List Occurrence) := fun w =>
  let (value, after) := act { w with outside := { w.outside with journal := [] } }
  ((value, after.outside.journal), after)

/-- Counts a call of a script, and says how many there were before. -/
def calling (script : Nat) : StateM Scene Nat := fun s =>
  (s.calls script, { s with
    calls := fun other => if other = script then s.calls script + 1 else s.calls other })

def accountShelf : Place Scene (Shelf Account) where
  get s := ⟨s.accounts, s.files, s.journal⟩
  set shelf s := { s with accounts := shelf.depots, files := shelf.files, journal := shelf.journal }
  get_set _ _ := rfl
  set_get _ := rfl
  set_set _ _ _ := rfl

def labShelf : Place Scene (Shelf Lab) where
  get s := ⟨s.labs, s.files, s.journal⟩
  set shelf s := { s with labs := shelf.depots, files := shelf.files, journal := shelf.journal }
  get_set _ _ := rfl
  set_get _ := rfl
  set_set _ _ _ := rfl

def unwiredShelf : Place Scene (Shelf Unwired) where
  get s := ⟨s.unwired, s.files, s.journal⟩
  set shelf s := { s with unwired := shelf.depots, files := shelf.files, journal := shelf.journal }
  get_set _ _ := rfl
  set_get _ := rfl
  set_set _ _ _ := rfl

def spareLedger : Place Scene SignalLedger where
  get := spare
  set spare s := { s with spare }
  get_set _ _ := rfl
  set_get _ := rfl
  set_set _ _ _ := rfl

/-- The ledger of a scene as a store whose calls are in the journal and may fail. -/
def store : SignalStore Scene where
  save signal status error := fun s =>
    let (failure, saving) := s.faults.saving.next
    let noted := { s with
      faults := { s.faults with saving }
      journal := s.journal ++ [.saved signal status error failure.isSome] }
    match failure with
    | some failure => (.error failure, noted)
    | none => (.ok (), { noted with ledger := s.ledger.save signal status error })
  record id := fun s =>
    let (failure, recording) := s.faults.recording.next
    let noted := { s with faults := { s.faults with recording } }
    match failure with
    | some failure => (.error failure, noted)
    | none => (.ok (s.ledger.record? id), noted)
  scheduled := fun s =>
    let (failure, scheduling) := s.faults.scheduling.next
    let noted := { s with
      faults := { s.faults with scheduling }
      journal := s.journal ++ [.listed] }
    match failure with
    | some failure => (.error failure, noted)
    | none => (.ok s.ledger.scheduled, noted)
  claim id := fun s =>
    let (failure, claiming) := s.faults.claiming.next
    let noted := { s with
      faults := { s.faults with claiming }
      journal := s.journal ++ [.claimed id] }
    match failure with
    | some failure => (.error failure, noted)
    | none =>
        let ledger := if id ∈ s.rivals then (s.ledger.claim id).2 else s.ledger
        let (claimed, ledger) := ledger.claim id
        (.ok claimed, { noted with ledger })

/-- Ids that look random, at one time. -/
def supply : Supply where
  ids n := ⟨Uuid.random (0x5eed0000000000000000000000000000 + n)⟩
  clock _ := 1795000000000
  idsDrawn := 0
  readings := 0

def world : World Scene := ⟨supply, empty⟩

end Scene

end Switchboard.Sample
