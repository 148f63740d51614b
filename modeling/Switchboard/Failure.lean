import Switchboard.Entity.Key

namespace Switchboard

/-! What can go wrong, each cause with its wording, and the record kept of it. -/

structure ErrorRecord where
  type : String
  message : String
  code : Int32
  attributes : Json.Members
deriving DecidableEq, Repr

namespace ErrorRecord

def of (type message : String) : ErrorRecord := ⟨type, message, 0, .empty⟩

def withCode (r : ErrorRecord) (code : Int32) : ErrorRecord := { r with code }

def withAttribute (r : ErrorRecord) (key : String) (value : Json) : ErrorRecord :=
  { r with attributes := r.attributes.insert key value }

def text (r : ErrorRecord) : String := r.type ++ ": " ++ r.message

/-- Attributes are written only if there are any. -/
def encode (r : ErrorRecord) : Json :=
  let always := [
    ("code", .int r.code.toInt),
    ("error_type", .string r.type),
    ("message", .string r.message)]
  .object (if r.attributes.isEmpty then always else ("attributes", r.attributes.encode) :: always)

def decode : Decoder ErrorRecord :=
  .record "ErrorRecord" (mk
    <$> .required "error_type" .string
    <*> .required "message" .string
    <*> .withDefault "code" 0 .int32
    <*> .withDefault "attributes" .empty .members)

end ErrorRecord

inductive SignalDefect where
  | unsupported (type : String)
  | missingTenant (id : SignalId)
  | invalid (id : SignalId) (type : String) (violations : List Violation)
deriving DecidableEq, Repr

namespace SignalDefect

def message : SignalDefect → String
  | .unsupported type => "signal type `" ++ type ++ "` is not supported by any registered consumer"
  | .missingTenant id => "signal `" ++ id.text ++ "` does not specify a tenant"
  | .invalid id type violations =>
      "signal `" ++ id.text ++ "` of type `" ++ type ++ "` is invalid: " ++
        "; ".intercalate (violations.map Violation.text)

def record (d : SignalDefect) : ErrorRecord :=
  match d with
  | .unsupported _ => .withCode (.of "UnsupportedSignal" d.message) 1
  | .missingTenant _ => .withCode (.of "MissingTenant" d.message) 2
  | .invalid _ _ violations =>
      .withAttribute (.withCode (.of "InvalidSignal" d.message) 3)
        "violations" (.array (violations.map Violation.encode))

end SignalDefect

inductive ConsumerCategory where
  | dispatcher
  | handler
deriving DecidableEq, Repr

def ConsumerCategory.name : ConsumerCategory → String
  | .dispatcher => "dispatcher"
  | .handler => "handler"

inductive RegistrationError where
  /-- A signal type it declares belongs to somebody else. -/
  | conflict (type owner : String) (ownerCategory : ConsumerCategory)
      (consumer : String) (category : ConsumerCategory)
  | duplicateMethod (consumer type : String)
deriving DecidableEq, Repr

def RegistrationError.message : RegistrationError → String
  | .conflict type owner ownerCategory consumer category =>
      "cannot register " ++ category.name ++ " `" ++ consumer ++ "`: signal type `" ++ type ++
        "` is already owned by " ++ ownerCategory.name ++ " `" ++ owner ++ "`"
  | .duplicateMethod consumer type =>
      "handler set `" ++ consumer ++ "` declares more than one method for `" ++ type ++ "`"

inductive ConfigurationError where
  | missingHandler (aggregate command : String)
  | missingApplier (aggregate event : String)
deriving DecidableEq, Repr

def ConfigurationError.message : ConfigurationError → String
  | .missingHandler aggregate command =>
      "aggregate `" ++ aggregate ++ "` has no handler for command `" ++ command ++ "`"
  | .missingApplier aggregate event =>
      "aggregate `" ++ aggregate ++ "` has no applier for event `" ++ event ++ "`"

inductive StorageError where
  | io (cause : String)
  | serialization (cause : String)
  | invalidKey (key : EntityKey) (reason : String)
deriving DecidableEq, Repr

def StorageError.message : StorageError → String
  | .io cause => "I/O error: " ++ cause
  | .serialization cause => "serialization error: " ++ cause
  | .invalidKey key reason => "invalid key `" ++ key.text ++ "`: " ++ reason

inductive CacheError where
  | notCached (key : EntityKey)
  | storage (error : StorageError)
deriving DecidableEq, Repr

def CacheError.message : CacheError → String
  | .notCached key => "entity `" ++ key.text ++ "` is not cached"
  | .storage error => error.message

inductive DispatchError where
  | configuration (error : ConfigurationError)
  /-- The actor of the entity ended without an answer. -/
  | actorGone
  | storage (error : StorageError)
deriving DecidableEq, Repr

namespace DispatchError

def message : DispatchError → String
  | .configuration error => error.message
  | .actorGone => "aggregate actor is no longer running"
  | .storage error => error.message

def record (e : DispatchError) : ErrorRecord :=
  match e with
  | .configuration _ => .of "ConfigurationError" e.message
  | .actorGone => .of "ActorGone" e.message
  | .storage _ => .of "StorageError" e.message

end DispatchError

inductive MonitorError where
  | unknownSignal (id : SignalId)
  | invalidStatus (id : SignalId) (status : String)
  | encode (reason : String)
deriving DecidableEq, Repr

namespace MonitorError

def message : MonitorError → String
  | .unknownSignal id => "unknown signal ID encountered: `" ++ id.text ++ "`"
  | .invalidStatus id status =>
      "signal `" ++ id.text ++ "` has invalid acknowledgement status `" ++ status ++ "`"
  | .encode reason => "failed to encode system event: " ++ reason

/-- What is said where such an acknowledgement ends everything, since none should ever come. -/
def alarm (e : MonitorError) : String := "acknowledgement monitor invariant violated: " ++ e.message

end MonitorError

inductive BusError where
  | configuration (error : ConfigurationError)
  | registration (error : RegistrationError)
  | storage (error : StorageError)
deriving DecidableEq, Repr

def BusError.message : BusError → String
  | .configuration error => error.message
  | .registration error => error.message
  | .storage error => error.message

end Switchboard
