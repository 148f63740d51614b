import Switchboard.Json.Token
import Switchboard.Json.Text

namespace Switchboard

/-! Scanned JSON texts, and the values they stand for.

A document keeps what a text says, members in their order and repeated. A part that
is well formed but stands for no value is `unreadable`, and does no harm where nobody
looks at it. -/

inductive Document where
  | null
  | bool (value : Bool)
  | number (value : Number)
  | string (value : String)
  | array (items : List Document)
  | object (members : List (String × Document))
  | unreadable

namespace Document

/-- How many containers may stand inside each other. -/
def depthLimit : Nat := 127

/-- A container that has been opened: what it holds so far, latest first. The key of a
member whose value is still to come is kept; a key that is no string spoils the object. -/
inductive Open where
  | array (items : List Document)
  | object (members : List (Option String × Document)) (key : Option String)

/-- What a text may go on with. -/
inductive Next where
  | value
  | valueOrClose
  | key
  | keyOrClose
  | colon
  | commaOrClose
  | nothing
deriving DecidableEq

structure Reading where
  opened : List Open
  next : Next
  result : Document

namespace Reading

def start : Reading := ⟨[], .value, .unreadable⟩

/-- Puts a complete value where it belongs. -/
def complete (r : Reading) (value : Document) : Reading :=
  match r.opened with
  | [] => { r with next := .nothing, result := value }
  | .array items :: outer =>
      { r with opened := .array (value :: items) :: outer, next := .commaOrClose }
  | .object members key :: outer =>
      { r with opened := .object ((key, value) :: members) none :: outer, next := .commaOrClose }

/-- The members in their order, unless some key is no string. -/
def named : List (Option String × Document) → Option (List (String × Document))
  | [] => some []
  | (none, _) :: _ => none
  | (some key, value) :: rest => (named rest).map ((key, value) :: ·)

/-- Closes the innermost container. One that stands too deep is unreadable. -/
def close (r : Reading) : Option Reading :=
  let within (outer : List Open) (value : Document) : Reading :=
    complete { r with opened := outer }
      (if r.opened.length ≤ depthLimit then value else .unreadable)
  match r.opened with
  | [] => none
  | .array items :: outer => some (within outer (.array items.reverse))
  | .object members _ :: outer =>
      some (within outer (((named members.reverse).map .object).getD .unreadable))

def wantsValue (r : Reading) : Bool := r.next = .value || r.next = .valueOrClose

def insideArray (r : Reading) : Bool :=
  match r.opened with
  | .array _ :: _ => true
  | _ => false

def insideObject (r : Reading) : Bool :=
  match r.opened with
  | .object _ _ :: _ => true
  | _ => false

def step (r : Reading) : Token → Option Reading
  | .null => if r.wantsValue then some (r.complete .null) else none
  | .bool b => if r.wantsValue then some (r.complete (.bool b)) else none
  | .number n => if r.wantsValue then some (r.complete ((n.map .number).getD .unreadable)) else none
  | .string s =>
      if r.wantsValue then some (r.complete ((s.map .string).getD .unreadable))
      else if r.next = .key ∨ r.next = .keyOrClose then
        match r.opened with
        | .object members _ :: outer =>
            some { r with opened := .object members s :: outer, next := .colon }
        | _ => none
      else none
  | .leftBracket =>
      if r.wantsValue then some { r with opened := .array [] :: r.opened, next := .valueOrClose }
      else none
  | .leftBrace =>
      if r.wantsValue then
        some { r with opened := .object [] none :: r.opened, next := .keyOrClose }
      else none
  | .rightBracket =>
      if r.insideArray && (r.next = .valueOrClose || r.next = .commaOrClose) then r.close else none
  | .rightBrace =>
      if r.insideObject && (r.next = .keyOrClose || r.next = .commaOrClose) then r.close else none
  | .colon => if r.next = .colon then some { r with next := .value } else none
  | .comma =>
      if r.next = .commaOrClose then some { r with next := if r.insideObject then .key else .value }
      else none

end Reading

def ofTokens (tokens : List Token) : Option Document := do
  let r ← tokens.foldlM Reading.step Reading.start
  if r.next = .nothing then some r.result else none

/-- The document a text holds, if it is well formed. -/
def ofText (text : String) : Option Document := do ofTokens (← Token.ofText text)

end Document

namespace Json

/-- Members with one more: in its place by the order of keys, and instead of one that
has the same key. -/
def insertMember (key : String) (value : Json) : List (String × Json) → List (String × Json)
  | [] => [(key, value)]
  | (other, old) :: rest =>
      if key < other then (key, value) :: (other, old) :: rest
      else if key = other then (key, value) :: rest
      else (other, old) :: insertMember key value rest

mutual

/-- The same value with all members in ascending order of their keys. -/
def sorted : Json → Json
  | .null => .null
  | .bool b => .bool b
  | .number n => .number n
  | .string s => .string s
  | .array items => .array (sortedItems items)
  | .object members => .object (sortedMembers [] members)

def sortedItems : List Json → List Json
  | [] => []
  | item :: rest => item.sorted :: sortedItems rest

def sortedMembers (done : List (String × Json)) : List (String × Json) → List (String × Json)
  | [] => done
  | (key, value) :: rest => sortedMembers (insertMember key value.sorted done) rest

end

end Json

namespace Document

mutual

/-- The value a document stands for, if all of it can be read. Members are put in
ascending order of their keys; of repeated ones the last counts. -/
def value : Document → Option Json
  | .null => some .null
  | .bool b => some (.bool b)
  | .number n => some (.number n)
  | .string s => some (.string s)
  | .array items => (values items).map .array
  | .object members => (memberValues [] members).map .object
  | .unreadable => none

def values : List Document → Option (List Json)
  | [] => some []
  | item :: rest => do some ((← item.value) :: (← values rest))

def memberValues (done : List (String × Json)) :
    List (String × Document) → Option (List (String × Json))
  | [] => some done
  | (key, member) :: rest => do memberValues (Json.insertMember key (← member.value) done) rest

end

end Document

def Json.ofText (text : String) : Option Json := do (← Document.ofText text).value

end Switchboard
