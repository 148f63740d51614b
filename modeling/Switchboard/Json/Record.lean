import Switchboard.Json.Decoder

namespace Switchboard

/-! Decoders of records.

A record is read from an object by the names of its fields, or from an array by their
order. The fields are read independently of each other: of those that do not decode the
one that stands first in the source is reported, and only then a field that is missing. -/

/-- What several fields have given: all their values, or the reason that comes first. -/
inductive Collected (α : Type) where
  | complete (value : α)
  /-- A field does not decode; `place` says where in the source it stands. -/
  | broken (place : Nat) (error : DecodeError)
  /-- A field that must be there is not; `index` counts the fields declared before it. -/
  | lacking (index : Nat) (name : String)

namespace Collected

def map (f : α → β) : Collected α → Collected β
  | .complete value => .complete (f value)
  | .broken place error => .broken place error
  | .lacking index name => .lacking index name

/-- Both parts. The field earlier in the source is reported before a later one, one that
does not decode before a missing one, and the missing one declared first. -/
def both : Collected (α → β) → Collected α → Collected β
  | .complete f, .complete value => .complete (f value)
  | .complete _, .broken place error => .broken place error
  | .complete _, .lacking index name => .lacking index name
  | .broken place error, .broken other otherError =>
      if other < place then .broken other otherError else .broken place error
  | .broken place error, _ => .broken place error
  | .lacking _ _, .broken place error => .broken place error
  | .lacking index name, _ => .lacking index name

end Collected

/-- Where the fields of a record are looked up: by name, or by index. -/
structure Places where
  find : String → Nat → Option (Nat × Source)
  byIndex : Bool

/-- The declared fields of a record, and how to read them all. -/
structure Fields (α : Type) where
  names : List String
  /-- Reads the fields; the number counts those declared before. -/
  collect : Places → Nat → Collected α

namespace Fields

instance : Applicative Fields where
  pure value := ⟨[], fun _ _ => .complete value⟩
  map f fields := ⟨fields.names, fun places index => (fields.collect places index).map f⟩
  seq f fields :=
    let first := f
    let rest := fields ()
    ⟨first.names ++ rest.names, fun places index =>
      (first.collect places index).both (rest.collect places (index + first.names.length))⟩

/-- What the absence of a field means. -/
inductive Absence (α : Type) where
  /-- It must be there. -/
  | refused
  /-- It may be left out of an object, and then has this value. -/
  | inObjects (value : α)
  /-- It may be left out anywhere. -/
  | anywhere (value : α)

def field (name : String) (decoder : Decoder α) (absence : Absence α) : Fields α where
  names := [name]
  collect places index :=
    match places.find name index with
    | some (place, source) =>
        match decoder source with
        | .ok value => .complete value
        | .error error => .broken place error
    | none =>
        match absence with
        | .refused => .lacking index name
        | .inObjects value => if places.byIndex then .lacking index name else .complete value
        | .anywhere value => .complete value

def required (name : String) (decoder : Decoder α) : Fields α := field name decoder .refused

/-- A field that may be `null`, or left out of an object. -/
def optional (name : String) (decoder : Decoder α) : Fields (Option α) :=
  field name (Decoder.option decoder) (.inObjects none)

/-- A field that has a value of its own when left out. -/
def withDefault (name : String) (value : α) (decoder : Decoder α) : Fields α :=
  field name decoder (.anywhere value)

end Fields

namespace Places

def findMember (name : String) : Nat → List (String × Source) → Option (Nat × Source)
  | _, [] => none
  | place, (key, member) :: rest =>
      if key = name then some (place, member) else findMember name (place + 1) rest

def ofMembers (members : List (String × Source)) : Places where
  find name _ := findMember name 0 members
  byIndex := false

def ofItems (items : List Source) : Places where
  find _ index := items[index]?.map (index, ·)
  byIndex := true

end Places

/-- The first declared name that the keys hold twice. -/
def repeatedName (names : List String) : List String → Option String
  | [] => none
  | key :: rest => if key ∈ names ∧ key ∈ rest then some key else repeatedName names rest

/-- A record with that name in diagnostics. Members of other names are passed over. -/
def Decoder.record (name : String) (fields : Fields α) : Decoder α := fun source =>
  match source.view with
  | .object members =>
      match repeatedName fields.names (members.map Prod.fst) with
      | some key => .error (.repeated key)
      | none =>
          match fields.collect (Places.ofMembers members) 0 with
          | .complete value => .ok value
          | .broken _ error => .error error
          | .lacking _ missing => .error (.missing missing)
  | .array items =>
      match fields.collect (Places.ofItems items) 0 with
      | .complete value =>
          if items.length ≤ fields.names.length then .ok value
          else .error (.length items.length "fewer elements in array")
      | .broken _ error => .error error
      | .lacking index _ =>
          let count := fields.names.length
          let noun := if count = 1 then "element" else "elements"
          .error (.length index s!"struct {name} with {count} {noun}")
  | other => .error (.kind other.describe ("struct " ++ name))

/-- A record without fields, written `null`. -/
def Decoder.unitRecord (name : String) : Decoder Unit := Decoder.nothing ("unit struct " ++ name)

end Switchboard
