import Switchboard.Json.Parts

namespace Switchboard.Sample.Transcript

/-! Transcripts that can be compared with each other.

What differs from one run to the next is replaced: random identifiers by numbers, in the
order in which they first appear, current times by a word, and what the system says of a
failure by a star. -/

/-- The random identifiers met so far. -/
abbrev Known := List String

def isHex (c : Char) : Bool := c.isDigit || ('a' ≤ c && c ≤ 'f')

/-- Whether characters are the written form of a random identifier. -/
def isRandomId (chars : List Char) : Bool :=
  chars.length = 36 && chars.zipIdx.all fun (c, i) =>
    if i = 8 || i = 13 || i = 18 || i = 23 then c = '-'
    else if i = 14 then c = '4'
    else if i = 19 then c = '8' || c = '9' || c = 'a' || c = 'b'
    else isHex c

/-- The number that stands for an identifier. -/
def numbered (id : String) : StateM Known String := fun known =>
  match known.findIdx? (· = id) with
  | some place => ("$" ++ toString (place + 1), known)
  | none => ("$" ++ toString (known.length + 1), known ++ [id])

/-- Replaces the identifiers among characters. The characters of one that has been
replaced are passed over. -/
def replaceIds (skip : Nat) : List Char → StateM Known (List Char)
  | [] => return []
  | c :: rest => do
      if 0 < skip then replaceIds (skip - 1) rest
      else if isRandomId ((c :: rest).take 36) then
        let name ← numbered (String.ofList ((c :: rest).take 36))
        return name.toList ++ (← replaceIds 35 rest)
      else return c :: (← replaceIds 0 rest)

/-- How the wordings begin that go on with what the system says. -/
def causes : List String := ["serialization error: ", "I/O error: "]

def hideCause (text : String) : String :=
  match causes.find? fun start => text.startsWith start && text ≠ start ++ "injected" with
  | some start => start ++ "*"
  | none => text

def finalText (text : String) : StateM Known String := do
  return String.ofList (← replaceIds 0 (hideCause text).toList)

def isNow (key : String) (n : Int) : Bool :=
  (key = "timestamp" || key = "when_modified") && 1600000000000 ≤ n && n ≤ 10000000000000

mutual

/-- A value as it goes into the transcript. The key is the one it stands under. -/
def final (key : String) : Json → StateM Known Json
  | .null => return .null
  | .bool value => return .bool value
  | .number (.integer n) => return if isNow key n then .string "now" else .number (.integer n)
  | .number (.double x) => return .number (.double x)
  | .string text => return .string (← finalText text)
  | .array items => return .array (← finalItems key items)
  | .object members => return .object (← finalMembers members)

def finalItems (key : String) : List Json → StateM Known (List Json)
  | [] => return []
  | item :: rest => return (← final key item) :: (← finalItems key rest)

def finalMembers : List (String × Json) → StateM Known (List (String × Json))
  | [] => return []
  | (key, value) :: rest => return (key, ← final key value) :: (← finalMembers rest)

end

/-- A complete answer, its members by ascending key. -/
def ofAnswer (answer : Json) : Json := (final "" answer.sorted []).1

end Switchboard.Sample.Transcript
