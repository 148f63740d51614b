import Switchboard.Json.Token

namespace Switchboard

/-! Places in a text, as diagnostics tell them at their end: ` at line 3 column 7`. -/

structure Location where
  line : Nat
  column : Nat
deriving DecidableEq, Repr

namespace Location

/-- Line 0 stands for no place in a text. -/
def text (location : Location) : String :=
  if location.line = 0 then ""
  else " at line " ++ toString location.line ++ " column " ++ toString location.column

/-- Takes a number of 64 bits, and the words before it, off the end of a reversed text. -/
def number? (words : String) (reversed : List Char) : Option (Nat × List Char) :=
  let digits := (reversed.takeWhile Char.isDigit).reverse
  let rest := reversed.dropWhile Char.isDigit
  let value := digits.foldl (fun n c => n * 10 + (c.toNat - '0'.toNat)) 0
  if digits ≠ [] ∧ value < UInt64.size ∧ words.toList.reverse.isPrefixOf rest then
    some (value, rest.drop words.length)
  else none

/-- The place that a diagnostic ends with, after what stands before it. -/
def split? (diagnostic : String) : Option (String × Location) := do
  let (column, rest) ← number? " column " diagnostic.toList.reverse
  let (line, rest) ← number? " at line " rest
  some (String.ofList rest.reverse, ⟨line, column⟩)

/-- Writes the place at the end of a diagnostic anew, and drops it if it is none. -/
def plain (diagnostic : String) : String :=
  match split? diagnostic with
  | some (rest, location) => rest ++ location.text
  | none => diagnostic

end Location

end Switchboard
