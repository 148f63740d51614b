import Switchboard.Json.Location
import Switchboard.Sample.Lab.Message
import Switchboard.Outcome

namespace Switchboard.Sample

/-! Scripts: what a handler or dispatcher of the sample does, call by call. -/

inductive Mishap where
  | io (text : String)
  | lab (text : String)
  | generic
  /-- The text is read as an integer of 32 bits. -/
  | integer (text : String)
  | named (name text : String)
  /-- A diagnostic about a JSON text. -/
  | json (text : String)

/-- Reads digits onto a number, and says what is wrong at the first one that spoils it. -/
def digitsComplaint (isNegative : Bool) : Nat → List Char → Option String
  | _, [] => none
  | n, c :: rest =>
      if ¬ c.isDigit then some "invalid digit found in string"
      else
        let next := n * 10 + (c.toNat - '0'.toNat)
        if isNegative ∧ Int32.minValue.toInt.natAbs < next then
          some "number too small to fit in target type"
        else if ¬ isNegative ∧ Int32.maxValue.toInt.natAbs < next then
          some "number too large to fit in target type"
        else digitsComplaint isNegative next rest

/-- What is wrong with a text that is no integer of 32 bits. -/
def integerComplaint (text : String) : Option String :=
  match text.toList with
  | [] => some "cannot parse integer from empty string"
  | ['+'] | ['-'] => some "invalid digit found in string"
  | '-' :: digits => digitsComplaint true 0 digits
  | '+' :: digits => digitsComplaint false 0 digits
  | digits => digitsComplaint false 0 digits

def Mishap.error : Mishap → HandlerError
  | .io text => .failed "Error" text
  | .lab text => .failed "LabError" ("lab: " ++ text)
  | .generic => .failed "Wrapped" "wrapped"
  | .integer text => .failed "ParseIntError" ((integerComplaint text).getD "")
  | .named name text => .failed name ("lab: " ++ text)
  | .json text => .codec (Location.plain text)

inductive Turn where
  | refuse (reason : Refusal)
  | reject (rejection : Rejection)
  /-- Rejects with a reason that cannot be written. -/
  | refuseCursed
  | fail (mishap : Mishap)
  | emit (events : List EventMessage)

def Turn.result : Turn → HandlerResult
  | .refuse reason => .error (.reject Refusal.type Refusal.text reason)
  | .reject rejection => .error (.rejected rejection)
  | .refuseCursed => .error (.reject cursed (fun _ => "cursed") ())
  | .fail mishap => .error mishap.error
  | .emit events => .ok events

/-- What a dispatcher answers to one signal. -/
inductive Answer where
  | actorGone
  | brokenStorage
  | misconfigured
  | failure (record : ErrorRecord)
  | rejection (rejection : Rejection)
  | success (events : List Signal)

/-- What is done in each call: the last item counts for all further calls too. -/
structure Script (α : Type) where
  first : α
  rest : List α

namespace Script

def always (item : α) : Script α := ⟨item, []⟩

def ofList? : List α → Option (Script α)
  | [] => none
  | first :: rest => some ⟨first, rest⟩

/-- The item for a call, by how many were made before. -/
def item (s : Script α) (call : Nat) : α :=
  ((s.first :: s.rest)[call]?).getD ((s.first :: s.rest).getLast (by simp))

end Script

end Switchboard.Sample
