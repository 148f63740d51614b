import Switchboard.Json.Record

namespace Switchboard

/-! Messages: what commands and events say.

Inside a program a message is a value of some type; on the wire it is the name of that
type and a JSON payload. -/

structure Violation where
  field : String
  message : String
deriving DecidableEq, Repr

namespace Violation

def text (v : Violation) : String := v.field ++ ": " ++ v.message

def encode (v : Violation) : Json :=
  .object [("field", .string v.field), ("message", .string v.message)]

def decode : Decoder Violation :=
  .record "ConstraintViolation" (mk <$> .required "field" .string <*> .required "message" .string)

end Violation

structure EncodeError where
  message : String
deriving DecidableEq, Repr

/-- An event without its envelope. -/
structure EventMessage where
  type : String
  data : Json
deriving DecidableEq, Repr

namespace EventMessage

def encode (m : EventMessage) : Json :=
  .object [("data", m.data), ("type", .string m.type)]

def decode : Decoder EventMessage :=
  .record "EventMessage" (mk <$> .required "type" .string <*> .required "data" .any)

end EventMessage

/-- A type of messages: its name on the wire, how it is written and read, and the rules
its content has to keep. -/
structure MessageType (μ : Type) where
  name : String
  decode : Decoder μ
  encode : μ → Except EncodeError Json
  violations : μ → List Violation

/-- What the bus knows of a message type: its name and how to check a payload. A payload
is valid when it breaks no rule. -/
structure MessageClass where
  name : String
  check : Json → List Violation

namespace MessageType

/-- A type whose every message can be written and whose content is free. -/
def plain (name : String) (decode : Decoder μ) (encode : μ → Json) : MessageType μ where
  name
  decode
  encode message := .ok (encode message)
  violations _ := []

/-- A payload that does not decode breaks one rule, that of the whole payload. -/
def check (t : MessageType μ) (payload : Json) : List Violation :=
  match payload.decode t.decode with
  | .ok message => t.violations message
  | .error error => [⟨"$", error.message⟩]

def toClass (t : MessageType μ) : MessageClass := ⟨t.name, t.check⟩

def event (t : MessageType μ) (message : μ) : Except EncodeError EventMessage :=
  (t.encode message).map fun data => ⟨t.name, data⟩

/-! What a handler may return stands for a list of events. -/

def oneEvent (t : MessageType μ) (message : μ) : Except EncodeError (List EventMessage) :=
  (t.event message).map ([·])

def optionalEvent (t : MessageType μ) : Option μ → Except EncodeError (List EventMessage)
  | none => .ok []
  | some message => t.oneEvent message

def eventList (t : MessageType μ) (messages : List μ) : Except EncodeError (List EventMessage) :=
  messages.mapM t.event

def eventPair (t : MessageType μ) (u : MessageType ν) (messages : μ × ν) :
    Except EncodeError (List EventMessage) := do
  .ok [← t.event messages.1, ← u.event messages.2]

end MessageType

namespace EventMessage

def is (m : EventMessage) (t : MessageType μ) : Bool := m.type = t.name

def message (m : EventMessage) (t : MessageType μ) : Except DecodeError μ := m.data.decode t.decode

end EventMessage

end Switchboard
