import Switchboard.Sample.Brief
import Switchboard.Sample.Cast

namespace Switchboard.Sample

/-! Scripts and the consumers that follow them, as they are written down. -/

def Mishap.ofJson (json : Json) : Mishap :=
  let text := json.textAt "text"
  match json.textAt "kind" with
  | "lab" => .lab text
  | "generic" => .generic
  | "int" => .integer text
  | "named" => .named (json.textAt "name") text
  | "json" => .json text
  | _ => .io text

/-- A turn that cannot be read emits nothing. -/
def Turn.ofJson (json : Json) : Turn :=
  if json.has "reject" then
    ((json.readAt? "reject" Refusal.decode).map .refuse).getD (.emit [])
  else if json.has "reject_raw" then
    ((json.readAt? "reject_raw" Rejection.decode).map .reject).getD (.emit [])
  else if json.has "reject_cursed" then .refuseCursed
  else if json.has "fail" then .fail (.ofJson (json.part "fail"))
  else .emit ((json.listAt "emit").filterMap (·.read? EventMessage.decode))

/-- An answer that cannot be read is a success without events. -/
def Answer.ofJson (json : Json) : Answer :=
  if json.has "error" then
    match json.textAt "error" with
    | "actor_gone" => .actorGone
    | "storage" => .brokenStorage
    | _ => .misconfigured
  else if json.has "failure" then
    ((json.readAt? "failure" ErrorRecord.decode).map .failure).getD (.success [])
  else if json.has "rejection" then
    ((json.readAt? "rejection" Rejection.decode).map .rejection).getD (.success [])
  else .success ((json.listAt "events").filterMap Brief.signal?)

/-- A script is a single item, or a sequence of them. -/
def Script.ofJson (item : Json → α) (json : Json) : Script α :=
  (Script.ofList? ((json.listAt "seq").map item)).getD (.always (item json))

namespace Playbook

def class? (key : String) : Option MessageClass := (Topic.ofKey? key).map fun t => t.type.toClass

def wireName (key : String) : String := ((class? key).map (·.name)).getD key

def method? (set : String) (number : Nat) (json : Json) : Option (HandlerMethod Scene) :=
  (Topic.ofKey? (json.textAt "type")).map fun topic =>
    ScriptedMethod.method
      ⟨topic, json.flagAt "ctx", .ofJson Turn.ofJson (json.part "do"), number⟩ set

/-- A handler set. The calls of its scripts are counted under numbers from a first one on. -/
def handlerSet (number : Nat) (json : Json) : HandlerSet Scene :=
  let id := json.textAt "id"
  .ofMethods id ((json.listAt "methods").zipIdx.filterMap fun (method, i) =>
    method? id (number + i) method)

def dispatcher (number : Nat) (json : Json) : Dispatcher Scene :=
  ScriptedDispatcher.dispatcher {
    id := json.textAt "id"
    classes := (json.listAt "types").filterMap fun key => class? key.asText
    script := .ofJson Answer.ofJson (json.part "do")
    number }

/-- How many numbers the scripts of a consumer take up. -/
def scriptCount (json : Json) : Nat := max 1 (json.listAt "methods").length

/-- A consumer: a company by its name, a dispatcher with its types, or a handler set. -/
def consumer (companies : List (String × Company)) (number : Nat) (json : Json) : Consumer Scene :=
  match companies.lookup (json.textAt "repo") with
  | some company => .dispatcher company.dispatcher
  | none =>
      if json.has "types" then .dispatcher (dispatcher number json)
      else .handlers (handlerSet number json)

def company? (json : Json) : Option (String × Company) :=
  let name := json.textAt "name"
  (Company.ofType? (json.textAt "aggregate") {
    name
    consumerId := json.readAt? "consumer_id" .string
    multitenant := json.flagAt "multitenant"
    directory := if json.flagAt "file" then some [] else none }).map (name, ·)

/-- Consumers with the kind of signals that each takes, and how many scripts they have. -/
def consumers (companies : List (String × Company)) :
    Nat → List Json → List (SignalKind × Consumer Scene) × Nat
  | number, [] => ([], number)
  | number, json :: rest =>
      let kind := if json.textAt "as" = "subscriber" then SignalKind.event else .command
      let (others, total) := consumers companies (number + scriptCount json) rest
      ((kind, consumer companies number json) :: others, total)

def preload (ledger : SignalLedger) (json : Json) : SignalLedger :=
  match Brief.signal? (json.part "signal") with
  | some signal => ledger.save signal (Brief.status json) (Brief.record? json)
  | none => ledger

/-- A model with more neutral, archiving and deleting events. -/
def extended (model : AggregateModel σ) (json : Json) : AggregateModel σ :=
  let names (key : String) : List String := (json.listAt key).map fun name => wireName name.asText
  let neutral := (names "neutral").foldl AggregateModel.withNeutral model
  let archiving := (names "archived_by").foldl AggregateModel.archivedBy neutral
  (names "deleted_by").foldl AggregateModel.deletedBy archiving

def mismatchOf? (shown : ValueMismatch.Shown α) (decoder : Decoder α) (json : Json)
    (version : UInt64) : Option ValueMismatch := do
  let given (key : String) : Option α := json.readAt? key decoder
  match json.textAt "helper" with
  | "default" => return .expectedDefault shown (← given "a") (← given "b") version
  | "not_default" =>
      return .expectedNotDefault shown (← given "a") (← json.readAt? "b" (.option decoder)) version
  | _ => return .unexpectedValue shown (← given "a") (← given "b") (← given "c") version

def mismatch? (json : Json) : Option ValueMismatch := do
  let version ← json.readAt? "version" .uint64
  let given (key : String) : Option String := json.readAt? key .string
  match json.textAt "helper" with
  | "empty" => return .expectedEmpty (← given "a") (← given "b") version
  | "not_empty" => return .expectedNotEmpty (← given "a") version
  | "string" => return .unexpectedString (← given "a") (← given "b") (← given "c") version
  | "cursed" => return .unexpectedValue ⟨cursed.encode, ()⟩ () () () version
  | _ =>
      match json.textAt "of" with
      | "i64" => mismatchOf? Lab.amountShown .int64 json version
      | "bool" => mismatchOf? (.plain .bool false) .bool json version
      | "list" =>
          mismatchOf? (.plain (fun l => .array (l.map .int64)) []) (.list .int64) json version
      | "option" => mismatchOf? (.plain (.option (.nat ·.toNat)) none) (.option .uint8) json version
      | "account" => mismatchOf? Account.shown Account.decode json version
      | _ => mismatchOf? .string .string json version

end Playbook

end Switchboard.Sample
