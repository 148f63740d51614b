import Switchboard.Entity.Cache
import Switchboard.Sample.Scene

namespace Switchboard.Sample

/-! Notes behind a cache. -/

/-- An entity that is any value under a key. -/
structure Note where
  key : EntityKey
  body : Json

namespace Note

/-- The notes in memory, with faults and a journal. -/
def storage : EntityStorage (Journaled (Faulty (MemoryRecords Note))) Note :=
  Journaled.storage Note.body (Faulty.storage MemoryRecords.storage)

/-- A note that is missing is read as one without a body. -/
def cache (multitenant : Bool) : EntityCache (Journaled (Faulty (MemoryRecords Note))) Note where
  multitenant
  keyOf := Note.key
  load key := do return (← storage.load key).map fun note => note.getD ⟨key, .null⟩
  store note := storage.store note.key note

end Note

end Switchboard.Sample
