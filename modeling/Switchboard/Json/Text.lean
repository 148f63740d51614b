import Switchboard.Json.Value
import Switchboard.Number.Shortest

namespace Switchboard

/-! The text of a JSON value: compact, or spread over lines. -/

/-- Doubles keep the plain form from `0.00001` up to below `1e+16`. -/
def Number.textStyle : Binary64.TextStyle where
  plainFrom := -5
  plainBelow := 16

def Number.text : Number → String
  | .integer value => toString value
  | .double value => value.text Number.textStyle

namespace Json

def hexDigit (n : Nat) : Char := (Nat.toDigits 16 n).getD 0 '0'

/-- A character inside quotes: quotes, backslashes and control characters are
escaped, all others stand for themselves. -/
def escapeChar (c : Char) : String :=
  if c = '"' then "\\\""
  else if c = '\\' then "\\\\"
  else if c = '\x08' then "\\b"
  else if c = '\x0c' then "\\f"
  else if c = '\n' then "\\n"
  else if c = '\r' then "\\r"
  else if c = '\t' then "\\t"
  else if c.toNat < 0x20 then
    "\\u00" ++ String.ofList [hexDigit (c.toNat / 16), hexDigit (c.toNat % 16)]
  else String.ofList [c]

def quote (s : String) : String := "\"" ++ String.join (s.toList.map escapeChar) ++ "\""

mutual

def compact : Json → String
  | .null => "null"
  | .bool value => if value then "true" else "false"
  | .number value => value.text
  | .string value => quote value
  | .array items => "[" ++ ",".intercalate (compactItems items) ++ "]"
  | .object members => "\x7b" ++ ",".intercalate (compactMembers members) ++ "\x7d"

def compactItems : List Json → List String
  | [] => []
  | item :: rest => item.compact :: compactItems rest

def compactMembers : List (String × Json) → List String
  | [] => []
  | (key, value) :: rest => (quote key ++ ":" ++ value.compact) :: compactMembers rest

end

/-- Lines one after another between brackets, each on a line of its own. -/
def block (opening closing : String) (indent : Nat) (lines : List String) : String :=
  if lines.isEmpty then opening ++ closing
  else
    let margin := "\n" ++ String.ofList (List.replicate indent ' ')
    opening ++ margin ++ "  " ++ ("," ++ margin ++ "  ").intercalate lines ++ margin ++ closing

mutual

/-- The text with every part on a line of its own, two more blanks before it than
before what it is a part of. -/
def pretty (indent : Nat) : Json → String
  | .array items => block "[" "]" indent (prettyItems (indent + 2) items)
  | .object members => block "\x7b" "\x7d" indent (prettyMembers (indent + 2) members)
  | .null => compact .null
  | .bool value => compact (.bool value)
  | .number value => compact (.number value)
  | .string value => compact (.string value)

def prettyItems (indent : Nat) : List Json → List String
  | [] => []
  | item :: rest => item.pretty indent :: prettyItems indent rest

def prettyMembers (indent : Nat) : List (String × Json) → List String
  | [] => []
  | (key, value) :: rest =>
      (quote key ++ ": " ++ value.pretty indent) :: prettyMembers indent rest

end

end Json

end Switchboard
