import Switchboard.Message

namespace Switchboard

/-! Rejections because a field does not hold what the sender of a command expected. -/

inductive MismatchKind where
  | expectedDefault
  | expectedNotDefault
  | unexpectedValue
  | expectedEmpty
  | expectedNotEmpty
deriving DecidableEq, Repr

namespace MismatchKind

def all : List MismatchKind :=
  [.expectedDefault, .expectedNotDefault, .unexpectedValue, .expectedEmpty, .expectedNotEmpty]

def name : MismatchKind → String
  | .expectedDefault => "ExpectedDefault"
  | .expectedNotDefault => "ExpectedNotDefault"
  | .unexpectedValue => "UnexpectedValue"
  | .expectedEmpty => "ExpectedEmpty"
  | .expectedNotEmpty => "ExpectedNotEmpty"

def text : MismatchKind → String
  | .expectedDefault => "expected default value"
  | .expectedNotDefault => "expected non-default value"
  | .unexpectedValue => "unexpected value"
  | .expectedEmpty => "expected empty string"
  | .expectedNotEmpty => "expected non-empty string"

def encode (kind : MismatchKind) : Json := .string kind.name

def decode : Decoder MismatchKind := .choice (all.map fun kind => (kind.name, kind))

end MismatchKind

/-- What was expected of a field, what it held, and the value the sender wanted to give
it; all seen at one version of the entity. -/
structure ValueMismatch where
  kind : MismatchKind
  expected : Json
  actual : Json
  newValue : Json
  version : UInt64
deriving DecidableEq, Repr

namespace ValueMismatch

/-- How the values of a type are shown in a mismatch, and which is the default one. -/
structure Shown (α : Type) where
  encode : α → Except EncodeError Json
  default : α

/-- A value that cannot be written is shown as `null`. -/
def Shown.capture (s : Shown α) (value : α) : Json :=
  match s.encode value with
  | .ok json => json
  | .error _ => .null

def expectedDefault (s : Shown α) (actual newValue : α) (version : UInt64) : ValueMismatch :=
  ⟨.expectedDefault, s.capture s.default, s.capture actual, s.capture newValue, version⟩

def expectedNotDefault (s : Shown α) (expected : α) (newValue : Option α) (version : UInt64) :
    ValueMismatch :=
  ⟨.expectedNotDefault, s.capture expected, s.capture s.default, .option s.capture newValue,
    version⟩

def unexpectedValue (s : Shown α) (expected actual newValue : α) (version : UInt64) :
    ValueMismatch :=
  ⟨.unexpectedValue, s.capture expected, s.capture actual, s.capture newValue, version⟩

def expectedEmpty (actual newValue : String) (version : UInt64) : ValueMismatch :=
  ⟨.expectedEmpty, .string "", .string actual, .string newValue, version⟩

def expectedNotEmpty (expected : String) (version : UInt64) : ValueMismatch :=
  ⟨.expectedNotEmpty, .string expected, .string "", .null, version⟩

/-- Values that can always be written. -/
def Shown.plain (encode : α → Json) (default : α) : Shown α :=
  ⟨fun value => .ok (encode value), default⟩

def Shown.string : Shown String := .plain .string ""

def unexpectedString (expected actual newValue : String) (version : UInt64) : ValueMismatch :=
  unexpectedValue .string expected actual newValue version

def text (m : ValueMismatch) : String :=
  m.kind.text ++ " at version " ++ toString m.version.toNat ++
    ": expected " ++ m.expected.compact ++ ", found " ++ m.actual.compact

def encode (m : ValueMismatch) : Json :=
  .object [
    ("actual", m.actual),
    ("expected", m.expected),
    ("kind", m.kind.encode),
    ("new_value", m.newValue),
    ("version", .nat m.version.toNat)]

def decode : Decoder ValueMismatch :=
  .record "ValueMismatch" (mk
    <$> .required "kind" MismatchKind.decode
    <*> .required "expected" .any
    <*> .required "actual" .any
    <*> .required "new_value" .any
    <*> .required "version" .uint64)

def type : MessageType ValueMismatch := .plain "eventfold.ValueMismatch" decode encode

end ValueMismatch

end Switchboard
