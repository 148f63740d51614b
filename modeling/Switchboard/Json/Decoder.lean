import Switchboard.Json.Source

namespace Switchboard.Decoder

/-! Decoders of single values, lists and choices. Records are in `Json.Record`. -/

def any : Decoder Json := fun source =>
  match source.json? with
  | some json => .ok json
  | none => .error (.malformed "the text stands for no value")

def string : Decoder String := fun source =>
  match source.view with
  | .string s => .ok s
  | other => .error (.kind other.describe "a string")

def bool : Decoder Bool := fun source =>
  match source.view with
  | .bool b => .ok b
  | other => .error (.kind other.describe "a boolean")

def integer (name : String) (least greatest : Int) : Decoder Int := fun source =>
  match source.view with
  | .number (.integer n) =>
      if least ≤ n ∧ n ≤ greatest then .ok n
      else .error (.value (View.describe (.number (.integer n))) name)
  | other => .error (.kind other.describe name)

def uint64 : Decoder UInt64 := fun source =>
  (integer "u64" 0 (UInt64.size - 1) source).map fun n => UInt64.ofNat n.toNat

def uint32 : Decoder UInt32 := fun source =>
  (integer "u32" 0 (UInt32.size - 1) source).map fun n => UInt32.ofNat n.toNat

def uint8 : Decoder UInt8 := fun source =>
  (integer "u8" 0 (UInt8.size - 1) source).map fun n => UInt8.ofNat n.toNat

def int64 : Decoder Int64 := fun source =>
  (integer "i64" Int64.minValue.toInt Int64.maxValue.toInt source).map Int64.ofInt

def int32 : Decoder Int32 := fun source =>
  (integer "i32" Int32.minValue.toInt Int32.maxValue.toInt source).map Int32.ofInt

def option (item : Decoder α) : Decoder (Option α) := fun source =>
  match source.view with
  | .null => .ok none
  | _ => (item source).map some

def list (item : Decoder α) : Decoder (List α) := fun source =>
  match source.view with
  | .array items => items.mapM item
  | other => .error (.kind other.describe "a sequence")

/-- The members of an object by ascending key, the last of repeated ones. -/
def members : Decoder Json.Members := fun source =>
  match source.view with
  | .object members => do
      let values ← members.mapM fun (key, member) => do .ok (key, ← any member)
      .ok (.ofList values)
  | other => .error (.kind other.describe "a map")

def nothing (wanted : String) : Decoder Unit := fun source =>
  match source.view with
  | .null => .ok ()
  | other => .error (.kind other.describe wanted)

/-- One of several values by its name. -/
def name (values : List (String × α)) : Decoder α := fun source =>
  match source.view with
  | .string name =>
      match values.lookup name with
      | some value => .ok value
      | none => .error (.variant name (values.map Prod.fst))
  | other => .error (.kind other.describe "variant identifier")

/-- One of several named values: its name, or an object that maps its name to `null`. -/
def choice (values : List (String × α)) : Decoder α := fun source =>
  match source.view with
  | .string _ => name values source
  | .object [(key, content)] => do
      let value ← name values (.value (.string key))
      nothing "unit" content
      .ok value
  | .object _ => .error (.value "map" "map with a single key")
  | other => .error (.kind other.describe "string or map")

end Switchboard.Decoder
