import Switchboard.Json.Members
import Switchboard.Text

namespace Switchboard

/-! What decoders read: values, or scanned texts, one level at a time. -/

inductive Source where
  | value (json : Json)
  | scanned (document : Document)

inductive View where
  | null
  | bool (value : Bool)
  | number (value : Number)
  | string (value : String)
  | array (items : List Source)
  | object (members : List (String × Source))
  | unreadable

namespace Source

def view : Source → View
  | .value .null | .scanned .null => .null
  | .value (.bool b) | .scanned (.bool b) => .bool b
  | .value (.number n) | .scanned (.number n) => .number n
  | .value (.string s) | .scanned (.string s) => .string s
  | .value (.array items) => .array (items.map .value)
  | .scanned (.array items) => .array (items.map .scanned)
  | .value (.object members) => .object (members.map fun (key, member) => (key, .value member))
  | .scanned (.object members) => .object (members.map fun (key, member) => (key, .scanned member))
  | .scanned .unreadable => .unreadable

/-- The whole source as a value. -/
def json? : Source → Option Json
  | .value json => some json
  | .scanned document => document.value

end Source

def View.describe : View → String
  | .null => "null"
  | .bool b => "boolean `" ++ toString b ++ "`"
  | .number (.integer n) => "integer `" ++ toString n ++ "`"
  | .number (.double x) => "floating point `" ++ Number.text (.double x) ++ "`"
  | .string s => "string " ++ Text.quoted s
  | .array _ => "sequence"
  | .object _ => "map"
  | .unreadable => "unreadable part"

inductive DecodeError where
  /-- Something of the wrong kind stands where another kind is wanted. -/
  | kind (found : String) (wanted : String)
  /-- The kind is right but this one is not among the wanted values. -/
  | value (found : String) (wanted : String)
  | length (count : Nat) (wanted : String)
  | missing (field : String)
  | repeated (field : String)
  | variant (found : String) (known : List String)
  | malformed (reason : String)
deriving DecidableEq, Repr

namespace DecodeError

/-- Names to choose from, as a diagnostic lists them. -/
def choice (names : List String) : String :=
  let marked := names.map fun name => "`" ++ name ++ "`"
  match marked with
  | [] => ""
  | [only] => only
  | [first, second] => first ++ " or " ++ second
  | _ => "one of " ++ ", ".intercalate marked

def message : DecodeError → String
  | .kind found wanted => s!"invalid type: {found}, expected {wanted}"
  | .value found wanted => s!"invalid value: {found}, expected {wanted}"
  | .length count wanted => s!"invalid length {count}, expected {wanted}"
  | .missing field => "missing field `" ++ field ++ "`"
  | .repeated field => "duplicate field `" ++ field ++ "`"
  | .variant found known => "unknown variant `" ++ found ++ "`, expected " ++ choice known
  | .malformed reason => reason

end DecodeError

abbrev Decoder (α : Type) := Source → Except DecodeError α

def Json.decode (decoder : Decoder α) (json : Json) : Except DecodeError α :=
  decoder (.value json)

/-- Reads a text. One that is not well formed decodes as nothing. -/
def Decoder.ofText (decoder : Decoder α) (text : String) : Except DecodeError α :=
  match Document.ofText text with
  | some document => decoder (.scanned document)
  | none => .error (.malformed "not a JSON text")

end Switchboard
