import Switchboard.Number.Binary64

namespace Switchboard

/-! JSON values.

An object is the list of its members. Values read from a text or built by this
library hold them in ascending key order, each key once; `Json.member?` and the
decoders never rely on it. -/

/-- A number: an integer, or a double for every other literal. -/
inductive Number where
  | integer (value : Int)
  | double (value : Binary64)
deriving DecidableEq, Repr

inductive Json where
  | null
  | bool (value : Bool)
  | number (value : Number)
  | string (value : String)
  | array (items : List Json)
  | object (members : List (String × Json))
deriving Repr

namespace Json

mutual

def decEq : (left right : Json) → Decidable (left = right)
  | .null, .null => isTrue rfl
  | .bool a, .bool b => decidable_of_iff (a = b) (by simp)
  | .number a, .number b => decidable_of_iff (a = b) (by simp)
  | .string a, .string b => decidable_of_iff (a = b) (by simp)
  | .array a, .array b =>
      match decEqItems a b with
      | isTrue same => isTrue (by rw [same])
      | isFalse different => isFalse (by simpa using different)
  | .object a, .object b =>
      match decEqMembers a b with
      | isTrue same => isTrue (by rw [same])
      | isFalse different => isFalse (by simpa using different)
  | .null, .bool _ | .null, .number _ | .null, .string _ | .null, .array _ | .null, .object _
  | .bool _, .null | .bool _, .number _ | .bool _, .string _ | .bool _, .array _
  | .bool _, .object _
  | .number _, .null | .number _, .bool _ | .number _, .string _ | .number _, .array _
  | .number _, .object _
  | .string _, .null | .string _, .bool _ | .string _, .number _ | .string _, .array _
  | .string _, .object _
  | .array _, .null | .array _, .bool _ | .array _, .number _ | .array _, .string _
  | .array _, .object _
  | .object _, .null | .object _, .bool _ | .object _, .number _ | .object _, .string _
  | .object _, .array _ => isFalse nofun

def decEqItems : (left right : List Json) → Decidable (left = right)
  | [], [] => isTrue rfl
  | [], _ :: _ | _ :: _, [] => isFalse nofun
  | a :: as, b :: bs =>
      match decEq a b, decEqItems as bs with
      | isTrue first, isTrue rest => isTrue (by rw [first, rest])
      | isFalse first, _ => isFalse (by simp [first])
      | _, isFalse rest => isFalse (by simp [rest])

def decEqMembers : (left right : List (String × Json)) → Decidable (left = right)
  | [], [] => isTrue rfl
  | [], _ :: _ | _ :: _, [] => isFalse nofun
  | (k, a) :: as, (l, b) :: bs =>
      if key : k = l then
        match decEq a b, decEqMembers as bs with
        | isTrue first, isTrue rest => isTrue (by rw [key, first, rest])
        | isFalse first, _ => isFalse (by simp [first])
        | _, isFalse rest => isFalse (by simp [rest])
      else isFalse (by simp [key])

end

instance : DecidableEq Json := decEq

instance : Inhabited Json := ⟨.null⟩

def int (value : Int) : Json := .number (.integer value)

def nat (value : Nat) : Json := .int value

def int64 (value : Int64) : Json := .int value.toInt

/-- The value of a possibly absent part: absence is written `null`. -/
def option (encode : α → Json) : Option α → Json
  | none => .null
  | some value => encode value

def strings (values : List String) : Json := .array (values.map .string)

/-- The member of that key, if the value is an object that has it. -/
def member? (key : String) : Json → Option Json
  | .object members => members.lookup key
  | _ => none

end Json

end Switchboard
