import Switchboard.Message
import Switchboard.Uuid

namespace Switchboard

/-! Signals: messages in their envelopes. -/

structure SignalId where
  uuid : Uuid
deriving DecidableEq, Repr

namespace SignalId

def text (id : SignalId) : String := id.uuid.text

def encode (id : SignalId) : Json := .string id.text

def decode : Decoder SignalId := fun source => (Decoder.uuid source).map mk

end SignalId

structure TenantId where
  name : String
deriving DecidableEq, Repr

namespace TenantId

def encode (tenant : TenantId) : Json := .string tenant.name

def decode : Decoder TenantId := fun source => (Decoder.string source).map mk

end TenantId

/-- A command asks one consumer to act; an event tells any number that something
happened. -/
inductive SignalKind where
  | command
  | event
deriving DecidableEq, Repr

namespace SignalKind

def name : SignalKind → String
  | .command => "Command"
  | .event => "Event"

def encode (kind : SignalKind) : Json := .string kind.name

def decode : Decoder SignalKind :=
  .choice ([.command, .event].map fun kind => (name kind, kind))

end SignalKind

/-- How far the handling of a signal has come. -/
inductive SignalStatus where
  | received
  | scheduled
  | ok
  | error
  | rejected
deriving DecidableEq, Repr

namespace SignalStatus

/-- The status in capitals, as people read it. -/
def text : SignalStatus → String
  | .received => "RECEIVED"
  | .scheduled => "SCHEDULED"
  | .ok => "OK"
  | .error => "ERROR"
  | .rejected => "REJECTED"

def name : SignalStatus → String
  | .received => "Received"
  | .scheduled => "Scheduled"
  | .ok => "Ok"
  | .error => "Error"
  | .rejected => "Rejected"

def encode (status : SignalStatus) : Json := .string status.name

def decode : Decoder SignalStatus :=
  .choice ([.received, .scheduled, .ok, .error, .rejected].map fun status => (name status, status))

end SignalStatus

/-- Circumstances of a signal that do not depend on its message. Times count
milliseconds from the start of 1970. -/
structure SignalContext where
  actor : Option String
  tenant : Option TenantId
  timestamp : UInt64
  delay : Option UInt64
  /-- The signal whose handling produced this one. -/
  origin : Option SignalId
  correlation : Option String
  /-- Who produced the signal. -/
  producer : Option String
  /-- The version its producer had reached with it. -/
  version : Option UInt64
  metadata : Option Json
deriving DecidableEq, Repr

namespace SignalContext

/-- A context with nothing but its time. -/
def ofTime (timestamp : UInt64) : SignalContext where
  actor := none
  tenant := none
  timestamp
  delay := none
  origin := none
  correlation := none
  producer := none
  version := none
  metadata := none

def withActor (c : SignalContext) (actor : String) : SignalContext := { c with actor }

def withTenant (c : SignalContext) (tenant : TenantId) : SignalContext := { c with tenant }

def withCorrelation (c : SignalContext) (correlation : String) : SignalContext :=
  { c with correlation }

/-- Delays the signal. A delay counts whole milliseconds, in 64 bits. -/
def withDelay (c : SignalContext) (seconds : UInt64) (nanoseconds : UInt32) : SignalContext :=
  { c with delay := some (.ofNat (seconds.toNat * 1000 + nanoseconds.toNat / 1000000)) }

def withTimestamp (c : SignalContext) (timestamp : UInt64) : SignalContext := { c with timestamp }

def withMetadata (c : SignalContext) (metadata : Json) : SignalContext := { c with metadata }

/-- When the signal is due, at the latest at the end of time. -/
def deliverAt (c : SignalContext) : UInt64 :=
  .ofNat (min (c.timestamp.toNat + (c.delay.getD 0).toNat) (UInt64.size - 1))

def isDelayed (c : SignalContext) (now : UInt64) : Bool := now < c.deliverAt

def encode (c : SignalContext) : Json :=
  .object [
    ("actor", .option .string c.actor),
    ("correlation_id", .option .string c.correlation),
    ("delay_ms", .option (.nat ·.toNat) c.delay),
    ("metadata", .option id c.metadata),
    ("origin", .option SignalId.encode c.origin),
    ("producer_id", .option .string c.producer),
    ("tenant", .option TenantId.encode c.tenant),
    ("timestamp", .nat c.timestamp.toNat),
    ("version", .option (.nat ·.toNat) c.version)]

def decode : Decoder SignalContext :=
  .record "SignalContext" (mk
    <$> .optional "actor" .string
    <*> .optional "tenant" TenantId.decode
    <*> .required "timestamp" .uint64
    <*> .optional "delay_ms" .uint64
    <*> .optional "origin" SignalId.decode
    <*> .optional "correlation_id" .string
    <*> .optional "producer_id" .string
    <*> .optional "version" .uint64
    <*> .optional "metadata" .any)

end SignalContext

structure Signal where
  id : SignalId
  kind : SignalKind
  type : String
  /-- The entity it concerns. -/
  target : Option String
  payload : Json
  context : SignalContext
deriving DecidableEq, Repr

namespace Signal

def tenant (s : Signal) : Option TenantId := s.context.tenant

def is (s : Signal) (t : MessageType μ) : Bool := s.type = t.name

def message (s : Signal) (t : MessageType μ) : Except DecodeError μ := s.payload.decode t.decode

def eventMessage (s : Signal) : EventMessage := ⟨s.type, s.payload⟩

def encode (s : Signal) : Json :=
  .object [
    ("context", s.context.encode),
    ("id", s.id.encode),
    ("kind", s.kind.encode),
    ("payload", s.payload),
    ("signal_type", .string s.type),
    ("target", .option .string s.target)]

def decode : Decoder Signal :=
  .record "Signal" (mk
    <$> .required "id" SignalId.decode
    <*> .required "kind" SignalKind.decode
    <*> .required "signal_type" .string
    <*> .optional "target" .string
    <*> .required "payload" .any
    <*> .required "context" SignalContext.decode)

end Signal

end Switchboard
