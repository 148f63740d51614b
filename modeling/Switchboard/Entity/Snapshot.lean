import Switchboard.Json.Record

namespace Switchboard

/-! What is stored of an entity. -/

structure Lifecycle where
  archived : Bool
  deleted : Bool
deriving DecidableEq, Repr

namespace Lifecycle

def initial : Lifecycle := ⟨false, false⟩

def encode (l : Lifecycle) : Json :=
  .object [("archived", .bool l.archived), ("deleted", .bool l.deleted)]

def decode : Decoder Lifecycle :=
  .record "Lifecycle" (mk <$> .required "archived" .bool <*> .required "deleted" .bool)

end Lifecycle

structure Snapshot (σ : Type) where
  state : σ
  /-- How many events have changed the state. -/
  version : UInt64
  /-- The time of the last of them. -/
  timestamp : UInt64
  lifecycle : Lifecycle
deriving DecidableEq, Repr

namespace Snapshot

/-- The members stand in the order in which records are written to files. -/
def encode (state : σ → Json) (s : Snapshot σ) : Json :=
  .object [
    ("state", state s.state),
    ("version", .nat s.version.toNat),
    ("timestamp", .nat s.timestamp.toNat),
    ("lifecycle", s.lifecycle.encode)]

def decode (state : Decoder σ) : Decoder (Snapshot σ) :=
  .record "Snapshot" (mk
    <$> .required "state" state
    <*> .required "version" .uint64
    <*> .required "timestamp" .uint64
    <*> .withDefault "lifecycle" .initial Lifecycle.decode)

end Snapshot

end Switchboard
