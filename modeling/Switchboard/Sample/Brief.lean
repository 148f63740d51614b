import Switchboard.Entity.Storage
import Switchboard.Json.Parts

namespace Switchboard.Sample.Brief

/-! The short form in which signals, keys and faults are written down for a scene. -/

/-- Numbers below this stand for identifiers. -/
def idLimit : Nat := twoTo 48

/-- An identifier, which may be given by its last digits as a number. -/
def id (json : Json) : Json :=
  match json with
  | .number (.integer n) =>
      if 0 ≤ n ∧ n.toNat < idLimit then .string (Uuid.ofNat n.toNat).text else json
  | other => other

def signalId? (json : Json) : Option SignalId := (id json).read? SignalId.decode

def defaultTime : Nat := 1000

/-- A context, whose time may be missing and whose origin may be a number. -/
def context? (json : Json) : Option SignalContext :=
  let whole : Json := match json with
    | .object members =>
        let timed := if json.has "timestamp" then members
          else Json.insertMember "timestamp" (.nat defaultTime) members
        .object (match timed.lookup "origin" with
          | some origin => Json.insertMember "origin" (id origin) timed
          | none => timed)
    | other => other
  whole.read? SignalContext.decode

def contextAt? (json : Json) (key : String) : Option SignalContext :=
  context? ((json.member? key).getD (.object []))

/-- A context with one thing changed, as a pair of its name and value says. -/
def adjusted? (context : SignalContext) (change : Json) : Option SignalContext :=
  match change.asList with
  | [.string "actor", value] => return context.withActor (← value.read? .string)
  | [.string "tenant", value] => return context.withTenant ⟨← value.read? .string⟩
  | [.string "correlation", value] => return context.withCorrelation (← value.read? .string)
  | [.string "timestamp", value] => return context.withTimestamp (← value.read? .uint64)
  | [.string "metadata", value] => some (context.withMetadata value)
  | [.string "delay", value] =>
      some (context.withDelay (.ofNat (value.natAt "secs" 0)) (.ofNat (value.natAt "nanos" 0)))
  | _ => none

/-- A signal. It concerns the entity that its payload names if it names none itself. -/
def signal? (json : Json) : Option Signal := do
  let id ← signalId? (json.part "id")
  let context ← contextAt? json "ctx"
  let payload := (json.member? "payload").getD (.object [])
  let target := ((json.member? "target").getD (payload.part "id")).read? .string
  return {
    id
    kind := if json.textAt "kind" = "Event" then .event else .command
    type := json.textAt "type"
    target, payload, context }

def signals? (json : Json) : Option (List Signal) := json.asList.mapM signal?

def tenant? (json : Json) : Option TenantId := (json.readAt? "tenant" .string).map .mk

def key (json : Json) : EntityKey := ⟨tenant? json, json.textAt "type", json.textAt "id"⟩

def category (name : String) : ConsumerCategory :=
  if name = "handler" then .handler else .dispatcher

def fault (name : String) : StorageError :=
  match name with
  | "serde" => .serialization "injected"
  | "key" => .invalidKey (.ofType "t" "i") "injected"
  | _ => .io "injected"

def faults (json : Json) : Faults :=
  .after (json.natAt "skip" 0) (json.natAt "times" 1) (fault (json.textAt "error"))

/-- The status under that key; a signal without one has just been received. -/
def status (json : Json) : SignalStatus :=
  (json.readAt? "status" SignalStatus.decode).getD .received

def record? (json : Json) : Option ErrorRecord := json.readAt? "error" ErrorRecord.decode

end Switchboard.Sample.Brief
