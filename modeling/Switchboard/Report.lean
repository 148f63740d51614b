import Switchboard.Aggregate.Root
import Switchboard.Bus.Sweep

namespace Switchboard

/-! Reports: outcomes and errors as JSON, for whoever watches a bus.

The report of an error names the kind of the error and gives its wording. -/

namespace Report

def error (kind message : String) : Json :=
  .object [("error", .string kind), ("message", .string message)]

def recorded (kind message : String) (record : ErrorRecord) : Json :=
  .object [("error", .string kind), ("message", .string message), ("record", record.encode)]

def signals (signals : List Signal) : Json := .array (signals.map Signal.encode)

def events (events : List EventMessage) : Json := .array (events.map EventMessage.encode)

def violations (violations : List Violation) : Json := .array (violations.map Violation.encode)

def classes (classes : List MessageClass) : Json := .strings (classes.map (·.name))

def either (failed : ε → Json) (done : α → Json) : Except ε α → Json
  | .ok value => done value
  | .error error => failed error

end Report

def EncodeError.report (e : EncodeError) : Json := Report.error "Encode" e.message

def DecodeError.report (e : DecodeError) : Json := Report.error "Decode" e.message

def ErrorRecord.report (r : ErrorRecord) : Json :=
  .object [("record", r.encode), ("display", .string r.text)]

namespace RegistrationError

def kind : RegistrationError → String
  | .conflict .. => "Conflict"
  | .duplicateMethod .. => "DuplicateMethod"

def report (e : RegistrationError) : Json := Report.error e.kind e.message

end RegistrationError

namespace ConfigurationError

def kind : ConfigurationError → String
  | .missingHandler .. => "MissingHandler"
  | .missingApplier .. => "MissingApplier"

def report (e : ConfigurationError) : Json := Report.error e.kind e.message

end ConfigurationError

namespace StorageError

def kind : StorageError → String
  | .io _ => "Io"
  | .serialization _ => "Serde"
  | .invalidKey .. => "InvalidKey"

def report (e : StorageError) : Json := Report.error e.kind e.message

end StorageError

namespace CacheError

def kind : CacheError → String
  | .notCached _ => "NotCached"
  | .storage _ => "Storage"

def report (e : CacheError) : Json := Report.error e.kind e.message

end CacheError

namespace HandlerError

def kind : HandlerError → String
  | .rejected _ => "Rejected"
  | .failed .. => "Failed"

def report (e : HandlerError) : Json := Report.recorded e.kind e.message e.record

end HandlerError

namespace DispatchError

def kind : DispatchError → String
  | .configuration _ => "Configuration"
  | .actorGone => "ActorGone"
  | .storage _ => "Storage"

def report (e : DispatchError) : Json := Report.recorded e.kind e.message e.record

end DispatchError

def AggregateError.report (e : AggregateError) : Json :=
  match e with
  | .configuration error => error.report
  | .handler error => error.report
  | .decode .. => Report.error "DecodeEvent" e.message
  | .crashed => Report.error "Crashed" e.message

namespace MonitorError

def kind : MonitorError → String
  | .unknownSignal _ => "UnknownSignal"
  | .invalidStatus .. => "InvalidStatus"
  | .encode _ => "Encode"

def report (e : MonitorError) : Json := Report.error e.kind e.message

def alarmReport (e : MonitorError) : Json := .object [("panic", .string e.alarm)]

end MonitorError

namespace BusError

def kind : BusError → String
  | .configuration _ => "Configuration"
  | .registration _ => "Registration"
  | .storage _ => "Storage"

def cause : BusError → String
  | .configuration error => error.kind
  | .registration error => error.kind
  | .storage error => error.kind

def report (e : BusError) : Json :=
  .object [("error", .string e.kind), ("message", .string e.message), ("cause", .string e.cause)]

end BusError

def Halt.report : Halt → Json
  | .error cause => cause.report
  | .monitor cause => cause.alarmReport
  | .unfinished => .string "unfinished"

def HandlerResult.report (r : HandlerResult) : Json :=
  Report.either HandlerError.report Report.events r

def Outcome.report (o : Outcome) : Json :=
  let always := [
    ("is", Json.array [.bool o.isSuccess, .bool o.isRejection, .bool o.isFailure]),
    ("status", .string o.status.text),
    ("events", Report.signals o.events),
    ("error", .option ErrorRecord.encode o.error)]
  match o with
  | .rejection event => .object (always ++ [("rejection", event.encode)])
  | _ => .object always

def Report.outcomes (outcomes : List Outcome) : Json := .array (outcomes.map Outcome.report)

def Caught.name : Caught → String
  | .rejected .. => "Rejection"
  | .runtime _ false => "Runtime"
  | .runtime _ true => "Runtime/rethrown"
  | .handled => "Handled"

def Consumer.report (c : Consumer ω) : Json :=
  .object [
    ("id", .string c.id),
    ("category", .string c.category.name),
    ("classes", Report.classes c.classes)]

def SignalRecord.brief (r : SignalRecord) : Json :=
  .array [
    r.signal.id.encode,
    .string r.signal.type,
    .string r.status.text,
    .option (.string ·.type) r.error]

def SweepReport.report (r : SweepReport) : Json :=
  .object [
    ("delivered", .nat r.delivered),
    ("pending", .nat r.pending),
    ("already_claimed", .nat r.alreadyClaimed)]

end Switchboard
