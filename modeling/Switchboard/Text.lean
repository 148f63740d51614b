import Switchboard.Text.Invisible

namespace Switchboard

/-- Names in ascending order, without repetitions. -/
def sortedNames (names : List String) : List String :=
  (names.mergeSort (· ≤ ·)).eraseDups

namespace Text

/-- Blank characters: those with the Unicode property White_Space. -/
def isBlank (c : Char) : Bool :=
  let n := c.toNat
  (0x09 ≤ n && n ≤ 0x0D) || n = 0x20 || n = 0x85 || n = 0xA0 || n = 0x1680 ||
    (0x2000 ≤ n && n ≤ 0x200A) || n = 0x2028 || n = 0x2029 || n = 0x202F || n = 0x205F ||
    n = 0x3000

/-- Whether a text has blank characters only, or none at all. -/
def allBlank (s : String) : Bool := s.toList.all isBlank

/-! Text quoted for a diagnostic: invisible characters are shown by their code point. -/

def shown (c : Char) : String :=
  if c = '"' then "\\\""
  else if c = '\\' then "\\\\"
  else if c = '\n' then "\\n"
  else if c = '\r' then "\\r"
  else if c = '\t' then "\\t"
  else if c = '\x00' then "\\0"
  else if isInvisible c then "\\u\x7b" ++ String.ofList (Nat.toDigits 16 c.toNat) ++ "\x7d"
  else String.ofList [c]

def quoted (s : String) : String := "\"" ++ String.join (s.toList.map shown) ++ "\""

end Text
end Switchboard
