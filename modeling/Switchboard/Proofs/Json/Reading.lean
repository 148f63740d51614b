import Mathlib.Data.List.Forall2
import Switchboard.Json.Record

namespace Switchboard

/-! Reading back what has been written: a decoder meets a value of the shape that it asks for. -/

variable {α β : Type} {json : Json} {name : String} {value : α} {decoder : Decoder α}
  {members : List (String × Json)}

namespace Decoder

@[simp] theorem decode_any (json : Json) : json.decode any = .ok json := rfl

@[simp] theorem decode_string (s : String) : (Json.string s).decode string = .ok s := rfl

@[simp] theorem decode_bool (b : Bool) : (Json.bool b).decode bool = .ok b := rfl

theorem decode_integer (name : String) {least greatest n : Int} (lower : least ≤ n) (upper : n ≤ greatest) :
    (Json.int n).decode (integer name least greatest) = .ok n := by
  simp only [Json.decode, integer, Source.view, Json.int, lower, upper, and_self, if_true]

@[simp] theorem decode_uint64 (n : UInt64) : (Json.nat n.toNat).decode uint64 = .ok n := by
  have upper : (n.toNat : Int) ≤ UInt64.size - 1 := by
    have := n.toNat_lt_size
    omega
  have read := decode_integer "u64" (Int.natCast_nonneg n.toNat) upper
  unfold Json.decode at read ⊢
  rw [uint64, Json.nat, read]
  exact congrArg Except.ok UInt64.ofNat_toNat

@[simp] theorem decode_int32 (n : Int32) : (Json.int n.toInt).decode int32 = .ok n := by
  have read := decode_integer "i32" n.minValue_le_toInt n.toInt_le
  unfold Json.decode at read ⊢
  rw [int32, read]
  exact congrArg Except.ok n.ofInt_toInt

/-- Nothing but `null` is read as the absence of a value. -/
theorem decode_option_value (present : json ≠ .null) :
    json.decode (option decoder) = (json.decode decoder).map some := by
  cases json with
  | null => exact absurd rfl present
  | _ => rfl

/-- An optional value is read back if its own encoding can be told from absence. -/
theorem decode_option {encode : α → Json} {found : Option α}
    (read : ∀ value, encode value ≠ .null ∧ (encode value).decode decoder = .ok value) :
    (Json.option encode found).decode (option decoder) = .ok found := by
  cases found with
  | none => rfl
  | some value =>
      obtain ⟨present, same⟩ := read value
      rw [Json.option, decode_option_value present, same]
      rfl

@[simp] theorem decode_option_string (found : Option String) :
    (Json.option .string found).decode (option string) = .ok found :=
  decode_option fun s => ⟨by simp, decode_string s⟩

@[simp] theorem decode_option_uint64 (found : Option UInt64) :
    (Json.option (.nat ·.toNat) found).decode (option uint64) = .ok found :=
  decode_option fun n => ⟨by simp [Json.nat, Json.int], decode_uint64 n⟩

/-- A value that is itself `null` is taken for the absence of a value. -/
theorem decode_option_any (found : Option Json) :
    (Json.option id found).decode (option any) = .ok (found.filter (· ≠ .null)) := by
  cases found with
  | none => rfl
  | some json =>
      by_cases null : json = .null
      · subst null
        rfl
      · rw [Json.option, id, decode_option_value null, decode_any, Option.filter_some, if_pos (by simpa using null)]
        rfl

end Decoder

/-! ## Members by key -/

namespace Json

/-- A key beyond all others goes to the end. -/
theorem insertMember_append (above : ∀ entry ∈ members, entry.1 < name) (json : Json) :
    insertMember name json members = members ++ [(name, json)] := by
  induction members with
  | nil => rfl
  | cons first rest ih =>
      obtain ⟨other, old⟩ := first
      obtain ⟨below, later⟩ := List.forall_mem_cons.mp above
      have notBefore : ¬ name < other := String.lt_asymm below
      have different : name ≠ other := fun same => String.lt_irrefl other (same ▸ below)
      simp only [insertMember, notBefore, different, if_false, ih later, List.cons_append]

theorem Members.entries_foldl {done : Members} {entries : List (String × Json)}
    (ascending : (done.entries ++ entries).Pairwise fun a b => a.1 < b.1) :
    (entries.foldl (fun m entry => m.insert entry.1 entry.2) done).entries = done.entries ++ entries := by
  induction entries generalizing done with
  | nil => simp
  | cons entry rest ih =>
      have above : ∀ other ∈ done.entries, other.1 < entry.1 := fun other member =>
        (List.pairwise_append.mp ascending).2.2 other member entry List.mem_cons_self
      have inserted : (done.insert entry.1 entry.2).entries = done.entries ++ [entry] :=
        insertMember_append above entry.2
      rw [List.foldl_cons, ih, inserted, List.append_assoc, List.singleton_append]
      rwa [inserted, List.append_assoc, List.singleton_append]

theorem Members.eq_of_entries {a b : Members} (same : a.entries = b.entries) : a = b := by
  cases a
  cases b
  cases same
  rfl

/-- Entries in their order are taken one after another. -/
theorem Members.ofList_entries (m : Members) : ofList m.entries = m :=
  Members.eq_of_entries (Members.entries_foldl m.ascending)

end Json

theorem Decoder.mapM_any {sources : List (String × Source)} {entries : List (String × Json)}
    (each : List.Forall₂ (fun source entry => source.1 = entry.1 ∧ any source.2 = .ok entry.2) sources entries) :
    sources.mapM (fun member => do .ok (member.1, ← any member.2)) = Except.ok (ε := DecodeError) entries := by
  induction each with
  | nil => rfl
  | @cons source entry _ _ same _ ih =>
      obtain ⟨key, source⟩ := source
      obtain ⟨other, json⟩ := entry
      obtain ⟨rfl, read⟩ := same
      simp only at read
      rw [List.mapM_cons, ih, read]
      rfl

@[simp] theorem Decoder.decode_members (m : Json.Members) : m.encode.decode Decoder.members = .ok m := by
  have each : List.Forall₂ (fun source entry => source.1 = entry.1 ∧ any source.2 = .ok entry.2)
      (m.entries.map fun entry => (entry.1, Source.value entry.2)) m.entries :=
    List.forall₂_map_left_iff.mpr (List.forall₂_same.mpr fun _ _ => ⟨rfl, rfl⟩)
  calc m.encode.decode Decoder.members
      = ((m.entries.map fun (entry : String × Json) => (entry.1, Source.value entry.2)).mapM
          fun (member : String × Source) => do .ok (member.1, ← any member.2)).map Json.Members.ofList := rfl
    _ = .ok (.ofList m.entries) := by rw [mapM_any each]; rfl
    _ = .ok m := congrArg Except.ok m.ofList_entries

/-! ## Records -/

namespace Places

/-- A member is found by its key, wherever it stands. -/
theorem map_findMember (name : String) (start : Nat) (members : List (String × Source)) :
    (findMember name start members).map Prod.snd = members.lookup name := by
  induction members generalizing start with
  | nil => rfl
  | cons first rest ih =>
      obtain ⟨key, member⟩ := first
      rw [findMember]
      by_cases same : key = name
      · subst same
        simp
      · rw [if_neg same, ih, List.lookup_cons, beq_false_of_ne (Ne.symm same)]

theorem lookup_values (members : List (String × Json)) (name : String) :
    (members.map fun (key, member) => (key, Source.value member)).lookup name = (members.lookup name).map .value := by
  induction members with
  | nil => rfl
  | cons first rest ih =>
      obtain ⟨key, member⟩ := first
      rw [List.map_cons, List.lookup_cons, List.lookup_cons, ih]
      split <;> rfl

/-- The fields of an object stand under their names. -/
theorem findMember_of_lookup (found : members.lookup name = some json) (start : Nat) :
    ∃ place, findMember name start (members.map fun (key, member) => (key, .value member)) =
      some (place, .value json) := by
  have held := map_findMember name start (members.map fun (key, member) => (key, .value member))
  rw [lookup_values, found] at held
  obtain ⟨⟨place, source⟩, stands, rfl⟩ := Option.map_eq_some_iff.mp held
  exact ⟨place, stands⟩

theorem findMember_of_absent (absent : members.lookup name = none) (start : Nat) :
    findMember name start (members.map fun (key, member) => (key, .value member)) = none := by
  have missing := map_findMember name start (members.map fun (key, member) => (key, .value member))
  rw [lookup_values, absent] at missing
  exact Option.map_eq_none_iff.mp missing

end Places

theorem repeatedName_of_distinct (names : List String) {keys : List String} (distinct : keys.Nodup) :
    repeatedName names keys = none := by
  induction keys with
  | nil => rfl
  | cons key rest ih =>
      obtain ⟨once, later⟩ := List.nodup_cons.mp distinct
      rw [repeatedName, if_neg fun both => once both.2, ih later]

namespace Fields

/-- An object with these members holds that value in those fields. -/
def HeldBy (fields : Fields α) (members : List (String × Json)) (value : α) : Prop :=
  ∀ index, fields.collect (.ofMembers (members.map fun (key, member) => (key, .value member))) index =
    .complete value

theorem HeldBy.map {fields : Fields α} (f : α → β) (held : fields.HeldBy members value) :
    (f <$> fields).HeldBy members (f value) := fun index => congrArg (Collected.map f) (held index)

theorem HeldBy.seq {first : Fields (α → β)} {rest : Fields α} {f : α → β} (function : first.HeldBy members f)
    (argument : rest.HeldBy members value) : (first <*> rest).HeldBy members (f value) := by
  intro index
  change ((first.collect _ _).both (rest.collect _ _)) = _
  rw [function, argument]
  rfl

theorem heldBy_field (absence : Absence α) (found : members.lookup name = some json)
    (read : json.decode decoder = .ok value) : (field name decoder absence).HeldBy members value := by
  intro index
  obtain ⟨place, stands⟩ := Places.findMember_of_lookup found 0
  unfold Json.decode at read
  simp only [field, Places.ofMembers, stands, read]

theorem HeldBy.andField {first : Fields (α → β)} {f : α → β} (held : first.HeldBy members f) {absence : Absence α}
    (found : members.lookup name = some json) (read : json.decode decoder = .ok value) :
    (first <*> field name decoder absence).HeldBy members (f value) :=
  held.seq (heldBy_field absence found read)

/-- A field that may be left out has its own value then. -/
theorem heldBy_withDefault (absent : members.lookup name = none) :
    (withDefault name value decoder).HeldBy members value := by
  intro index
  simp only [withDefault, field, Places.ofMembers, Places.findMember_of_absent absent]

end Fields

/-- A record is read from an object that holds each of its fields and no key twice. -/
theorem Decoder.decode_record {fields : Fields α} (distinct : (members.map Prod.fst).Nodup)
    (held : fields.HeldBy members value) :
    (Json.object members).decode (record name fields) = .ok value := by
  have keys : (members.map fun (key, member) => (key, Source.value member)).map Prod.fst =
      members.map Prod.fst := by
    rw [List.map_map]
    rfl
  unfold Json.decode
  simp only [record, Source.view, keys, repeatedName_of_distinct fields.names distinct, held 0]

end Switchboard
