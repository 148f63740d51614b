import Switchboard.Json.Decoder

namespace Switchboard.Json

/-! Parts of a value. What is missing, or is of another kind than wanted, counts as empty. -/

/-- The member of that key, or `null`. -/
def part (json : Json) (key : String) : Json := (json.member? key).getD .null

def has (json : Json) (key : String) : Bool := (json.member? key).isSome

def asText : Json → String
  | .string s => s
  | _ => ""

def asList : Json → List Json
  | .array items => items
  | _ => []

def textAt (json : Json) (key : String) : String := (json.part key).asText

def listAt (json : Json) (key : String) : List Json := (json.part key).asList

def flagAt (json : Json) (key : String) : Bool := json.part key = .bool true

/-- The number under a key. A negative one counts as zero. -/
def natAt (json : Json) (key : String) (default : Nat) : Nat :=
  match json.part key with
  | .number (.integer n) => n.toNat
  | _ => default

/-- The value that a decoder reads, if it reads one. -/
def read? (json : Json) (decoder : Decoder α) : Option α := (json.decode decoder).toOption

def readAt? (json : Json) (key : String) (decoder : Decoder α) : Option α :=
  (json.part key).read? decoder

end Switchboard.Json
