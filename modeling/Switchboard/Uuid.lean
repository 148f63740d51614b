import Switchboard.Json.Decoder

namespace Switchboard

/-! Universally unique identifiers: 32 hexadecimal digits. -/

structure Uuid where
  digits : Vector (Fin 16) 32
deriving DecidableEq, Repr

namespace Uuid

/-- The identifier whose digits are the last 32 of a number. -/
def ofNat (n : Nat) : Uuid := ⟨Vector.ofFn fun i => Fin.ofNat 16 (n / twoTo (4 * (31 - i.val)))⟩

/-- The kind of identifier that its thirteenth digit tells; 4 is a random one. -/
def version (u : Uuid) : Nat := u.digits[12].val

/-- A random identifier: the digits of a number save for the two that tell its kind. -/
def random (n : Nat) : Uuid :=
  ⟨((ofNat n).digits.set 12 4).set 16 (Fin.ofNat 16 (8 + (ofNat n).digits[16].val % 4))⟩

def hexChar (digit : Fin 16) : Char := "0123456789abcdef".toList.getD digit.val '0'

def hexDigit? (c : Char) : Option (Fin 16) :=
  (Token.hexValue c).map (Fin.ofNat 16)

/-- The lengths of the groups in the written form. -/
def groups : List Nat := [8, 4, 4, 4, 12]

/-- Cuts characters into groups, with hyphens between them. -/
def hyphenate : List Nat → List Char → List Char
  | [], rest => rest
  | [_], rest => rest
  | size :: sizes, chars => chars.take size ++ '-' :: hyphenate sizes (chars.drop size)

/-- Takes the hyphens between the groups out again. -/
def joinGroups : List Nat → List Char → Option (List Char)
  | [], rest => if rest.isEmpty then some [] else none
  | [size], rest => if rest.length = size then some rest else none
  | size :: sizes, chars =>
      match chars.drop size with
      | '-' :: rest => (joinGroups sizes rest).map (chars.take size ++ ·)
      | _ => none

def text (u : Uuid) : String :=
  String.ofList (hyphenate groups (u.digits.toList.map hexChar))

def ofDigits? (chars : List Char) : Option Uuid := do
  let digits ← chars.mapM hexDigit?
  if size : digits.length = 32 then some ⟨⟨digits.toArray, by simp [size]⟩⟩ else none

/-- How many characters stand before the grouped form, and the text with nothing around
it: it may be in braces or after `urn:uuid:`, whose letters are of either case. -/
def unwrap (chars : List Char) : Nat × List Char :=
  if chars.head? = some '\x7b' ∧ 1 < chars.length ∧ chars.getLast? = some '\x7d' then
    (1, chars.tail.dropLast)
  else if (chars.take 9).map Char.toLower = "urn:uuid:".toList then (9, chars.drop 9)
  else (0, chars)

/-- Reads 32 digits of either case, plain or in groups; grouped ones may be enclosed. -/
def ofText? (s : String) : Option Uuid :=
  if s.toList.length = 32 then ofDigits? s.toList
  else do ofDigits? (← joinGroups groups (unwrap s.toList).2)

inductive Flaw where
  | length (size : Nat)
  | character (found : Char) (place : Nat)
  | groupCount (count : Nat)
  | groupLength (group wanted found : Nat)
deriving DecidableEq, Repr

def Flaw.message : Flaw → String
  | .length size => s!"invalid length: found {size}"
  | .character found place =>
      "invalid character: found `" ++ String.ofList [found] ++ "` at " ++ toString place
  | .groupCount count => s!"invalid group count: expected 5, found {count}"
  | .groupLength group wanted found =>
      s!"invalid group length in group {group}: expected {wanted}, found {found}"

def groupLengths (chars : List Char) : List Nat :=
  chars.foldr (fun c rest => if c = '-' then 0 :: rest else rest.modifyHead (· + 1)) [0]

def groupedSize : Nat := 36

def longest : Nat := 9 + groupedSize

/-- What is wrong with a text that is no identifier.

A text of the grouped size is taken as it is. Others are judged by what is inside an
enclosure; places are counted from the start of the text, unless the inside has the
grouped size. The last group is taken to be what the text has beyond 24 characters. -/
def flaw (s : String) : Flaw :=
  let size := s.utf8ByteSize
  let (before, inner) := if size = groupedSize then (0, s.toList) else unwrap s.toList
  let isGrouped := (String.ofList inner).utf8ByteSize = groupedSize
  if longest < size then .length size
  else
    match inner.zipIdx.find? fun (c, _) => c ≠ '-' ∧ (hexDigit? c).isNone with
    | some (found, place) => .character found (if isGrouped then place else before + place)
    | none =>
        let lengths := groupLengths inner
        if lengths.length = 1 ∧ before = 0 ∧ ¬ isGrouped then .length size
        else if lengths.length ≠ 5 then .groupCount lengths.length
        else
          match ((groups.zip lengths).take 4).zipIdx.find? fun (pair, _) => pair.1 ≠ pair.2 with
          | some ((wanted, found), group) => .groupLength group wanted found
          | none => .groupLength 4 12 (size - 24)

end Uuid

def Decoder.uuid : Decoder Uuid := fun source =>
  match source.view with
  | .string s =>
      match Uuid.ofText? s with
      | some u => .ok u
      | none => .error (.malformed ("UUID parsing failed: " ++ (Uuid.flaw s).message))
  | other => .error (.kind other.describe "a formatted UUID string")

end Switchboard
