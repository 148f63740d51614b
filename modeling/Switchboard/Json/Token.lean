import Switchboard.Json.Value

namespace Switchboard

/-! Tokens of a JSON text.

A number or a string can be well formed and still name no value: a number beyond
the range of doubles, or a string with half a surrogate pair. Such a token carries
`none`, so that a reader may pass over it. -/

inductive Token where
  | leftBrace
  | rightBrace
  | leftBracket
  | rightBracket
  | colon
  | comma
  | null
  | bool (value : Bool)
  | number (value : Option Number)
  | string (value : Option String)
deriving DecidableEq, Repr

namespace Token

def digitValue (c : Char) : Nat := c.toNat - '0'.toNat

/-- Digits appended to a number as long as it stays below `2 ^ 64`, and the count of
the digits left over. -/
def absorb (start : Nat) : List Char → Nat × Nat
  | [] => (start, 0)
  | digit :: rest =>
      let next := 10 * start + digitValue digit
      if next < UInt64.size then absorb next rest else (start, rest.length + 1)

/-- The parts of a number: sign, digits before and after the point, and exponent. -/
structure Literal where
  negative : Bool
  whole : List Char
  fraction : Option (List Char)
  exponent : Option Int

namespace Literal

/-- The double a literal names: its first digits as a 64 bit integer, rounded and
then scaled by a power of ten. -/
def double (l : Literal) : Option Binary64 :=
  let fraction := l.fraction.getD []
  let (whole, wholeLeft) := absorb 0 l.whole
  let (digits, fractionLeft) := absorb whole fraction
  let power : Int := (wholeLeft : Int) - (fraction.length - fractionLeft : Nat) + l.exponent.getD 0
  ((Binary64.ofNat digits).scaleByTen power).map fun x => if l.negative then x.negate else x

/-- A literal of digits alone is an integer if it lies between `-2 ^ 63` and
`2 ^ 64 - 1`; every other literal, and also `-0`, is a double. -/
def number (l : Literal) : Option Number :=
  let (whole, left) := absorb 0 l.whole
  if l.fraction = none ∧ l.exponent = none ∧ left = 0 then
    if !l.negative then some (.integer whole)
    else if 1 ≤ whole ∧ whole ≤ Int64.minValue.toInt.natAbs then some (.integer (-whole))
    else some (.double (Binary64.ofNat whole).negate)
  else l.double.map .double

end Literal

/-- One digit or more, and the rest. -/
def digits (text : List Char) : Option (List Char × List Char) :=
  match text.takeWhile Char.isDigit with
  | [] => none
  | found => some (found, text.dropWhile Char.isDigit)

/-- The digits before the point: a zero stands alone. -/
def wholePart : List Char → Option (List Char × List Char)
  | '0' :: rest => some (['0'], rest)
  | text => digits text

def fractionPart : List Char → Option (Option (List Char) × List Char)
  | '.' :: rest => (digits rest).map fun (found, rest) => (some found, rest)
  | text => some (none, text)

def naturalOf (digits : List Char) : Nat := digits.foldl (fun n c => 10 * n + digitValue c) 0

def exponentPart (text : List Char) : Option (Option Int × List Char) :=
  let signed (negative : Bool) (rest : List Char) : Option (Option Int × List Char) :=
    (digits rest).map fun (found, rest) =>
      (some (if negative then -(naturalOf found : Int) else naturalOf found), rest)
  match text with
  | 'e' :: '-' :: rest | 'E' :: '-' :: rest => signed true rest
  | 'e' :: '+' :: rest | 'E' :: '+' :: rest => signed false rest
  | 'e' :: rest | 'E' :: rest => signed false rest
  | _ => some (none, text)

/-- The number at the start of a text. -/
def scanNumber (text : List Char) : Option (Option Number × List Char) := do
  let (negative, text) := match text with
    | '-' :: rest => (true, rest)
    | _ => (false, text)
  let (whole, text) ← wholePart text
  let (fraction, text) ← fractionPart text
  let (exponent, text) ← exponentPart text
  some (Literal.number ⟨negative, whole, fraction, exponent⟩, text)

/-- A piece of a string: a character, or a 16 bit unit written as an escape. -/
inductive Piece where
  | char (value : Char)
  | unit (value : Nat)

def hexValue (c : Char) : Option Nat :=
  if c.isDigit then some (digitValue c)
  else if 'a' ≤ c ∧ c ≤ 'f' then some (c.toNat - 'a'.toNat + 10)
  else if 'A' ≤ c ∧ c ≤ 'F' then some (c.toNat - 'A'.toNat + 10)
  else none

def escapedChar : Char → Option Char
  | '"' => some '"'
  | '\\' => some '\\'
  | '/' => some '/'
  | 'b' => some '\x08'
  | 'f' => some '\x0c'
  | 'n' => some '\n'
  | 'r' => some '\r'
  | 't' => some '\t'
  | _ => none

/-- The pieces of a string up to its closing quote, and the text after it. -/
def scanPieces : List Char → Option (List Piece × List Char)
  | [] => none
  | '"' :: rest => some ([], rest)
  | '\\' :: 'u' :: a :: b :: c :: d :: rest => do
      let high := (← hexValue a) * 16 + (← hexValue b)
      let unit := high * 256 + (← hexValue c) * 16 + (← hexValue d)
      let (pieces, rest) ← scanPieces rest
      some (.unit unit :: pieces, rest)
  | '\\' :: escaped :: rest => do
      let char ← escapedChar escaped
      let (pieces, rest) ← scanPieces rest
      some (.char char :: pieces, rest)
  | char :: rest =>
      if char.toNat < 0x20 ∨ char = '\\' then none
      else do
        let (pieces, rest) ← scanPieces rest
        some (.char char :: pieces, rest)

def isHighSurrogate (unit : Nat) : Bool := 0xD800 ≤ unit && unit ≤ 0xDBFF

def isLowSurrogate (unit : Nat) : Bool := 0xDC00 ≤ unit && unit ≤ 0xDFFF

/-- The characters of the pieces. Two units that form a surrogate pair are one
character; half a pair is none. -/
def joinPieces : List Piece → Option (List Char)
  | [] => some []
  | .char c :: rest => (joinPieces rest).map (c :: ·)
  | .unit high :: .unit low :: rest =>
      if isHighSurrogate high then
        if isLowSurrogate low then
          (joinPieces rest).map
            (Char.ofNat (0x10000 + (high - 0xD800) * 0x400 + (low - 0xDC00)) :: ·)
        else none
      else if isLowSurrogate high then none
      else (joinPieces (.unit low :: rest)).map (Char.ofNat high :: ·)
  | .unit unit :: rest =>
      if isHighSurrogate unit || isLowSurrogate unit then none
      else (joinPieces rest).map (Char.ofNat unit :: ·)

def isBlank (c : Char) : Bool := c = ' ' || c = '\n' || c = '\r' || c = '\t'

/-- The first token of a text that starts with no blank, and what follows it. -/
def scan : List Char → Option (Token × List Char)
  | '\x7b' :: rest => some (.leftBrace, rest)
  | '\x7d' :: rest => some (.rightBrace, rest)
  | '[' :: rest => some (.leftBracket, rest)
  | ']' :: rest => some (.rightBracket, rest)
  | ':' :: rest => some (.colon, rest)
  | ',' :: rest => some (.comma, rest)
  | 'n' :: 'u' :: 'l' :: 'l' :: rest => some (.null, rest)
  | 't' :: 'r' :: 'u' :: 'e' :: rest => some (.bool true, rest)
  | 'f' :: 'a' :: 'l' :: 's' :: 'e' :: rest => some (.bool false, rest)
  | '"' :: rest => (scanPieces rest).map fun (pieces, rest) =>
      (.string ((joinPieces pieces).map String.ofList), rest)
  | text => (scanNumber text).map fun (found, rest) => (.number found, rest)

/-- All tokens of a text. A token takes at least one character, so the length of the
text bounds their number. -/
def scanAll : (bound : Nat) → List Char → Option (List Token)
  | 0, text => if text.all isBlank then some [] else none
  | bound + 1, text =>
      match text.dropWhile isBlank with
      | [] => some []
      | first :: rest => do
          let (token, rest) ← scan (first :: rest)
          (scanAll bound rest).map (token :: ·)

def ofText (text : String) : Option (List Token) := scanAll text.length text.toList

end Token

end Switchboard
