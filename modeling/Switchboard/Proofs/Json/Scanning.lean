import Switchboard.Proofs.Json.Reading

namespace Switchboard

/-! Reading texts: what a decoder reads from a value it reads from every text that stands for the value. -/

namespace Json

theorem insertMember_perm {key : String} {entries : List (String × Json)} (absent : key ∉ entries.map Prod.fst)
    (value : Json) : (insertMember key value entries).Perm ((key, value) :: entries) := by
  induction entries with
  | nil => exact .refl _
  | cons first rest ih =>
      obtain ⟨other, old⟩ := first
      obtain ⟨different, later⟩ := not_or.mp (List.mem_cons.not.mp absent)
      rw [insertMember, if_neg different]
      split
      · exact .refl _
      · exact ((ih later).cons _).trans (.swap _ _ _)

namespace Members

/-- Entries with different keys are all kept. -/
theorem entries_foldl_perm {done : Members} {entries : List (String × Json)}
    (distinct : ((entries ++ done.entries).map Prod.fst).Nodup) :
    (entries.foldl (fun m entry => m.insert entry.1 entry.2) done).entries.Perm (entries ++ done.entries) := by
  induction entries generalizing done with
  | nil => exact .refl _
  | cons entry rest ih =>
      obtain ⟨once, later⟩ := List.nodup_cons.mp distinct
      have absent : entry.1 ∉ done.entries.map Prod.fst := fun member => once (by simp_all)
      have inserted : (done.insert entry.1 entry.2).entries.Perm (entry :: done.entries) :=
        insertMember_perm absent entry.2
      have moved : (rest ++ (done.insert entry.1 entry.2).entries).Perm (entry :: (rest ++ done.entries)) :=
        (inserted.append_left rest).trans List.perm_middle
      exact (ih (((moved.map Prod.fst).nodup_iff).mpr distinct)).trans moved

theorem entries_ofList_perm {entries : List (String × Json)} (distinct : (entries.map Prod.fst).Nodup) :
    (ofList entries).entries.Perm entries := by
  have alone : entries ++ empty.entries = entries := List.append_nil entries
  have kept := entries_foldl_perm (alone.symm ▸ distinct)
  rwa [alone] at kept

end Members

end Json

/-- The order of entries makes no difference to what is found if no key stands twice. -/
theorem lookup_perm {β : Type} {entries others : List (String × β)} (distinct : (entries.map Prod.fst).Nodup)
    (same : entries.Perm others) (name : String) : entries.lookup name = others.lookup name := by
  induction same with
  | nil => rfl
  | cons entry _ ih =>
      obtain ⟨key, value⟩ := entry
      rw [List.lookup_cons, List.lookup_cons, ih (List.nodup_cons.mp distinct).2]
  | swap first second rest =>
      obtain ⟨key, value⟩ := first
      obtain ⟨other, old⟩ := second
      have different : other ≠ key := fun same => by simp [same] at distinct
      by_cases here : name = other
      · subst here
        simp [List.lookup_cons, beq_false_of_ne different]
      · simp [List.lookup_cons, beq_false_of_ne here]
  | trans former _ ih later =>
      exact (ih distinct).trans (later (((former.map Prod.fst).nodup_iff).mp distinct))

namespace Document

/-- All of it can be read, and no object in it holds a key twice. -/
inductive Plain : Document → Prop
  | null : Plain .null
  | bool (value : Bool) : Plain (.bool value)
  | number (value : Number) : Plain (.number value)
  | string (value : String) : Plain (.string value)
  | array {items : List Document} (each : ∀ item ∈ items, Plain item) : Plain (.array items)
  | object {parts : List (String × Document)} (distinct : (parts.map Prod.fst).Nodup)
      (each : ∀ part ∈ parts, Plain part.2) : Plain (.object parts)

/-- What has been scanned is a plain way to write the value. -/
structure Stands (document : Document) (json : Json) : Prop where
  plain : document.Plain
  value : document.value = some json

theorem values_stand {items : List Document} {values : List Json} (plain : ∀ item ∈ items, item.Plain)
    (read : Document.values items = some values) : List.Forall₂ Stands items values := by
  induction items generalizing values with
  | nil =>
      cases read
      exact .nil
  | cons item rest ih =>
      obtain ⟨first, others⟩ := List.forall_mem_cons.mp plain
      rw [Document.values] at read
      obtain ⟨json, here, read⟩ := Option.bind_eq_some_iff.mp read
      obtain ⟨later, there, read⟩ := Option.bind_eq_some_iff.mp read
      cases read
      exact .cons ⟨first, here⟩ (ih others there)

/-- The member that a part of an object stands for. -/
def Denotes (part : String × Document) (member : String × Json) : Prop := part.1 = member.1 ∧ part.2.Stands member.2

theorem keys_of_denotes {parts : List (String × Document)} {entries : List (String × Json)}
    (denoted : List.Forall₂ Denotes parts entries) : parts.map Prod.fst = entries.map Prod.fst := by
  induction denoted with
  | nil => rfl
  | cons same _ ih => rw [List.map_cons, List.map_cons, same.1, ih]

theorem memberValues_stand {parts : List (String × Document)} {done : Json.Members} {members : List (String × Json)}
    (plain : ∀ part ∈ parts, part.2.Plain) (read : memberValues done.entries parts = some members) :
    ∃ entries, List.Forall₂ Denotes parts entries ∧
      members = (entries.foldl (fun m entry => m.insert entry.1 entry.2) done).entries := by
  induction parts generalizing done with
  | nil =>
      cases read
      exact ⟨[], .nil, rfl⟩
  | cons part rest ih =>
      obtain ⟨key, document⟩ := part
      obtain ⟨first, others⟩ := List.forall_mem_cons.mp plain
      rw [memberValues] at read
      obtain ⟨json, here, read⟩ := Option.bind_eq_some_iff.mp read
      have read : memberValues (done.insert key json).entries rest = some members := read
      obtain ⟨entries, denoted, rfl⟩ := ih others read
      exact ⟨(key, json) :: entries, .cons ⟨rfl, first, here⟩ denoted, rfl⟩

namespace Stands

variable {json : Json}

theorem array_inv {items : List Document} (stands : (Document.array items).Stands json) :
    ∃ values, json = .array values ∧ List.Forall₂ Stands items values := by
  obtain ⟨plain, value⟩ := stands
  cases plain with
  | array each =>
      rw [Document.value] at value
      obtain ⟨values, read, rfl⟩ := Option.map_eq_some_iff.mp value
      exact ⟨values, rfl, values_stand each read⟩

/-- The members of an object are put in order, and nothing else happens to them. -/
theorem object_inv {parts : List (String × Document)} (stands : (Document.object parts).Stands json) :
    (parts.map Prod.fst).Nodup ∧ ∃ entries, json = .object (Json.Members.ofList entries).entries ∧
      (entries.map Prod.fst).Nodup ∧ List.Forall₂ Denotes parts entries := by
  obtain ⟨plain, value⟩ := stands
  cases plain with
  | object distinct each =>
      rw [Document.value] at value
      obtain ⟨members, read, rfl⟩ := Option.map_eq_some_iff.mp value
      have read : memberValues Json.Members.empty.entries parts = some members := read
      obtain ⟨entries, denoted, rfl⟩ := memberValues_stand each read
      exact ⟨distinct, entries, rfl, keys_of_denotes denoted ▸ distinct, denoted⟩

end Stands

end Document

/-! ## Decoders -/

/-- What it reads from a value it reads from every text for it. -/
structure Decoder.ReadsTexts {α : Type} (decoder : Decoder α) : Prop where
  read : ∀ {document json value}, document.Stands json → json.decode decoder = .ok value →
    decoder (.scanned document) = .ok value

namespace Decoder

variable {α β : Type} {decoder : Decoder α}

theorem bind_eq_ok {first : Except DecodeError α} {next : α → Except DecodeError β} {value : β} :
    (first >>= next) = .ok value ↔ ∃ middle, first = .ok middle ∧ next middle = .ok value := by
  cases first with
  | error error => exact ⟨nofun, fun ⟨_, found, _⟩ => nomatch found⟩
  | ok middle => exact ⟨fun rest => ⟨middle, rfl, rest⟩, fun ⟨_, found, rest⟩ => Except.ok.inj found ▸ rest⟩

theorem map_eq_ok {first : Except DecodeError α} {f : α → β} {value : β} :
    first.map f = .ok value ↔ ∃ middle, first = .ok middle ∧ f middle = value := by
  cases first with
  | error error => exact ⟨nofun, fun ⟨_, found, _⟩ => nomatch found⟩
  | ok middle => simp [Except.map]

theorem readsTexts_any : any.ReadsTexts where
  read stands read := by
    cases read
    simp only [any, Source.json?, stands.value]

/-- It is enough to look at what has parts: anything else is seen alike in a value and in a text. -/
theorem readsTexts_of_parts
    (same : ∀ {source other : Source}, source.view = other.view → decoder source = decoder other)
    (array : ∀ {items values value}, List.Forall₂ Document.Stands items values →
      decoder (.value (.array values)) = .ok value → decoder (.scanned (.array items)) = .ok value)
    (object : ∀ {parts entries value}, (parts.map Prod.fst).Nodup → (entries.map Prod.fst).Nodup →
      List.Forall₂ Document.Denotes parts entries →
      decoder (.value (.object (Json.Members.ofList entries).entries)) = .ok value →
        decoder (.scanned (.object parts)) = .ok value) : decoder.ReadsTexts := by
  refine ⟨fun {document json value} stands read => ?_⟩
  have leaf (view : (Source.scanned document).view = (Source.value json).view) :
      decoder (.scanned document) = .ok value := (same view).trans read
  cases stands.plain with
  | array _ =>
      obtain ⟨values, rfl, each⟩ := stands.array_inv
      exact array each read
  | object _ _ =>
      obtain ⟨distinct, entries, rfl, once, denoted⟩ := stands.object_inv
      exact object distinct once denoted read
  | null =>
      cases stands.value
      exact leaf rfl
  | bool b =>
      cases stands.value
      exact leaf rfl
  | number n =>
      cases stands.value
      exact leaf rfl
  | string s =>
      cases stands.value
      exact leaf rfl

/-- Most decoders take nothing that has parts. -/
theorem readsTexts_of_view
    (same : ∀ {source other : Source}, source.view = other.view → decoder source = decoder other)
    (array : ∀ {items value}, decoder (.value (.array items)) ≠ .ok value)
    (object : ∀ {members value}, decoder (.value (.object members)) ≠ .ok value) : decoder.ReadsTexts :=
  readsTexts_of_parts same (fun _ read => absurd read array) fun _ _ _ read => absurd read object

theorem readsTexts_string : string.ReadsTexts :=
  readsTexts_of_view (fun same => by rw [string, string, same]) (by simp [string, Source.view])
    (by simp [string, Source.view])

theorem readsTexts_bool : bool.ReadsTexts :=
  readsTexts_of_view (fun same => by rw [bool, bool, same]) (by simp [bool, Source.view]) (by simp [bool, Source.view])

theorem readsTexts_integer (name : String) (least greatest : Int) : (integer name least greatest).ReadsTexts :=
  readsTexts_of_view (fun same => by rw [integer, integer, same]) (by simp [integer, Source.view])
    (by simp [integer, Source.view])

theorem readsTexts_nothing (wanted : String) : (nothing wanted).ReadsTexts :=
  readsTexts_of_view (fun same => by rw [nothing, nothing, same]) (by simp [nothing, Source.view])
    (by simp [nothing, Source.view])

theorem readsTexts_name (values : List (String × α)) : (name values).ReadsTexts :=
  readsTexts_of_view (fun same => by rw [name, name, same]) (by simp [name, Source.view]) (by simp [name, Source.view])

theorem ReadsTexts.map (reads : decoder.ReadsTexts) (f : α → β) :
    ReadsTexts fun source => (decoder source).map f where
  read stands read := by
    obtain ⟨middle, found, rest⟩ := map_eq_ok.mp read
    exact map_eq_ok.mpr ⟨middle, reads.read stands found, rest⟩

theorem readsTexts_uint64 : uint64.ReadsTexts := (readsTexts_integer _ _ _).map _

theorem readsTexts_int32 : int32.ReadsTexts := (readsTexts_integer _ _ _).map _

theorem ReadsTexts.option (reads : decoder.ReadsTexts) : (option decoder).ReadsTexts where
  read {document json value} stands read := by
    have within : json ≠ .null → (decoder (.scanned document)).map some = .ok value := fun present =>
      (reads.map some).read stands ((decode_option_value present).symm.trans read)
    cases stands.plain with
    | null =>
        cases stands.value
        exact read
    | bool _ => exact within (by cases stands.value; simp)
    | number _ => exact within (by cases stands.value; simp)
    | string _ => exact within (by cases stands.value; simp)
    | array _ => exact within (by obtain ⟨_, rfl, _⟩ := stands.array_inv; simp)
    | object _ _ => exact within (by obtain ⟨_, _, rfl, _⟩ := stands.object_inv; simp)

/-- The members are put in order in either case. -/
theorem readsTexts_members : members.ReadsTexts := by
  refine readsTexts_of_parts (fun same => by rw [members, members, same]) (by simp [members, Source.view]) ?_
  intro parts entries value _ _ denoted read
  have ordered : Except.ok (.ofList entries) = .ok value := (decode_members (.ofList entries)).symm.trans read
  have each : List.Forall₂ (fun source entry => source.1 = entry.1 ∧ any source.2 = .ok entry.2)
      (parts.map fun part => (part.1, Source.scanned part.2)) entries :=
    List.forall₂_map_left_iff.mpr (denoted.imp fun _ _ same => ⟨same.1, readsTexts_any.read same.2 rfl⟩)
  calc members (.scanned (.object parts))
      = ((parts.map fun (part : String × Document) => (part.1, Source.scanned part.2)).mapM
          fun (member : String × Source) => do .ok (member.1, ← any member.2)).map Json.Members.ofList := rfl
    _ = .ok (.ofList entries) := by rw [mapM_any each]; rfl
    _ = .ok value := ordered

theorem readsTexts_choice (values : List (String × α)) : (choice values).ReadsTexts := by
  refine readsTexts_of_parts (fun same => by rw [choice, choice, name, name, same]) (by simp [choice, Source.view]) ?_
  intro parts entries value _ once denoted read
  cases denoted with
  | nil => cases read
  | @cons part entry parts entries same others =>
      obtain ⟨key, document⟩ := part
      obtain ⟨other, json⟩ := entry
      obtain ⟨rfl, stands⟩ := same
      cases others with
      | nil =>
          obtain ⟨found, named, rest⟩ := bind_eq_ok.mp read
          obtain ⟨_, empty, rest⟩ := bind_eq_ok.mp rest
          have absent : nothing "unit" (.scanned document) = .ok () := (readsTexts_nothing "unit").read stands empty
          exact bind_eq_ok.mpr ⟨found, named, bind_eq_ok.mpr ⟨(), absent, rest⟩⟩
      | @cons _ entry' _ entries' =>
          -- No value is read from two members, so it is enough that the value holds as many.
          have kept := (Json.Members.entries_ofList_perm once).length_eq
          generalize (Json.Members.ofList ((key, json) :: entry' :: entries')).entries = members at read kept
          obtain _ | ⟨_, _ | ⟨_, _⟩⟩ := members
          · cases kept
          · cases kept
          · cases read

end Decoder

/-! ## Records -/

@[simp] theorem Source.view_value_object (members : List (String × Json)) :
    (Source.value (.object members)).view = .object (members.map fun member => (member.1, .value member.2)) := rfl

@[simp] theorem Source.view_scanned_object (parts : List (String × Document)) :
    (Source.scanned (.object parts)).view = .object (parts.map fun part => (part.1, .scanned part.2)) := rfl

/-- A part of a text for the part of a value. -/
inductive Source.Tells : Source → Source → Prop
  | intro {document : Document} {json : Json} (stands : document.Stands json) : Tells (.value json) (.scanned document)

/-- What a text tells can be read to the end, and so can what it tells it of. -/
theorem Source.any_of_told {own text : Option Source} (told : Option.Rel Tells own text) :
    (∀ source, own = some source → ∃ json, Decoder.any source = .ok json) ∧
      ∀ source, text = some source → ∃ json, Decoder.any source = .ok json := by
  cases told with
  | none => exact ⟨nofun, nofun⟩
  | some tells =>
      obtain @⟨document, json, stands⟩ := tells
      have read : Decoder.any (.scanned document) = .ok json := Decoder.readsTexts_any.read stands rfl
      exact ⟨fun _ same => ⟨json, Option.some.inj same ▸ rfl⟩, fun _ same => ⟨json, Option.some.inj same ▸ read⟩⟩

theorem Decoder.ReadsTexts.told {α : Type} {decoder : Decoder α} (reads : decoder.ReadsTexts)
    {own text : Option Source} (told : Option.Rel Source.Tells own text) {source : Source} {value : α}
    (found : own = some source) (read : decoder source = .ok value) :
    ∃ other, text = some other ∧ decoder other = .ok value := by
  cases told with
  | none => cases found
  | some tells =>
      obtain ⟨stands⟩ := tells
      cases found
      exact ⟨_, rfl, reads.read stands read⟩

namespace Places

/-- Whatever is found in the one place is told by what is found in the other. -/
structure ToldBy (p q : Places) : Prop where
  byIndex : p.byIndex = q.byIndex
  find : ∀ name index, Option.Rel Source.Tells ((p.find name index).map Prod.snd) ((q.find name index).map Prod.snd)

variable {p q : Places}

theorem ToldBy.cases (told : p.ToldBy q) (name : String) (index : Nat) :
    p.find name index = none ∧ q.find name index = none ∨
    ∃ place json other document, p.find name index = some (place, .value json) ∧
      q.find name index = some (other, .scanned document) ∧ document.Stands json := by
  have found := told.find name index
  generalize p.find name index = own at found ⊢
  generalize q.find name index = text at found ⊢
  match own, text, found with
  | none, none, _ => exact .inl ⟨rfl, rfl⟩
  | some (place, _), some (other, _), .some ⟨stands⟩ => exact .inr ⟨place, _, other, _, rfl, rfl, stands⟩

theorem toldBy_ofItems {items : List Document} {values : List Json} (each : List.Forall₂ Document.Stands items values) :
    (ofItems (values.map .value)).ToldBy (ofItems (items.map .scanned)) where
  byIndex := rfl
  find name index := by
    have told : Option.Rel Source.Tells ((values.map Source.value)[index]?) ((items.map Source.scanned)[index]?) := by
      induction each generalizing index with
      | nil => exact .none
      | cons stands _ ih =>
          cases index with
          | zero => exact .some ⟨stands⟩
          | succ index => exact ih index
    have whole (sources : List Source) : ((ofItems sources).find name index).map Prod.snd = sources[index]? := by
      simp [ofItems, Option.map_map, Function.comp_def]
    rwa [whole, whole]

variable {parts : List (String × Document)} {entries : List (String × Json)}

theorem lookup_denoted (denoted : List.Forall₂ Document.Denotes parts entries) (name : String) :
    Option.Rel Source.Tells ((entries.map fun entry => (entry.1, Source.value entry.2)).lookup name)
      ((parts.map fun part => (part.1, Source.scanned part.2)).lookup name) := by
  induction denoted with
  | nil => exact .none
  | @cons part entry _ _ same _ ih =>
      obtain ⟨key, document⟩ := part
      obtain ⟨other, json⟩ := entry
      obtain ⟨rfl, stands⟩ := same
      simp only [List.map_cons, List.lookup_cons]
      split
      · exact .some ⟨stands⟩
      · exact ih

/-- An object with its members in order holds what the text says, under the same names. -/
theorem lookup_ordered (once : (entries.map Prod.fst).Nodup) (denoted : List.Forall₂ Document.Denotes parts entries) :
    (((Json.Members.ofList entries).entries.map fun entry => (entry.1, Source.value entry.2)).map Prod.fst).Nodup ∧
    ∀ name, Option.Rel Source.Tells
      (((Json.Members.ofList entries).entries.map fun entry => (entry.1, Source.value entry.2)).lookup name)
      ((parts.map fun part => (part.1, Source.scanned part.2)).lookup name) := by
  have reordered := (Json.Members.entries_ofList_perm once).symm.map fun entry => (entry.1, Source.value entry.2)
  have distinct : ((entries.map fun entry => (entry.1, Source.value entry.2)).map Prod.fst).Nodup := by
    rwa [List.map_map]
  refine ⟨((reordered.map Prod.fst).nodup_iff).mp distinct, fun name => ?_⟩
  rw [← lookup_perm distinct reordered]
  exact lookup_denoted denoted name

theorem toldBy_ofMembers (once : (entries.map Prod.fst).Nodup)
    (denoted : List.Forall₂ Document.Denotes parts entries) :
    (ofMembers ((Json.Members.ofList entries).entries.map fun entry => (entry.1, .value entry.2))).ToldBy
      (ofMembers (parts.map fun part => (part.1, .scanned part.2))) where
  byIndex := rfl
  find name index := by
    simp only [ofMembers, map_findMember]
    exact (lookup_ordered once denoted).2 name

end Places

namespace Collected

variable {α β : Type}

theorem map_eq_complete {f : α → β} {collected : Collected α} {value : β} :
    collected.map f = .complete value ↔ ∃ inner, collected = .complete inner ∧ f inner = value := by
  cases collected <;> simp [map]

theorem both_eq_complete {first : Collected (α → β)} {rest : Collected α} {value : β} :
    first.both rest = .complete value ↔
      ∃ f inner, first = .complete f ∧ rest = .complete inner ∧ f inner = value := by
  cases first <;> cases rest <;> simp [both]
  split <;> simp

end Collected

namespace Fields

variable {α β : Type}

/-- What the fields have in a value they have in every text for it. -/
structure ReadTexts (fields : Fields α) : Prop where
  collect : ∀ {p q : Places} {index : Nat} {value : α}, p.ToldBy q → fields.collect p index = .complete value →
    fields.collect q index = .complete value

theorem ReadTexts.map {fields : Fields α} (read : fields.ReadTexts) (f : α → β) : (f <$> fields).ReadTexts where
  collect told collected := by
    obtain ⟨inner, own, same⟩ := Collected.map_eq_complete.mp collected
    exact Collected.map_eq_complete.mpr ⟨inner, read.collect told own, same⟩

theorem ReadTexts.seq {first : Fields (α → β)} {rest : Fields α} (function : first.ReadTexts)
    (argument : rest.ReadTexts) : (first <*> rest).ReadTexts where
  collect told collected := by
    obtain ⟨f, inner, former, later, same⟩ := Collected.both_eq_complete.mp collected
    exact Collected.both_eq_complete.mpr ⟨f, inner, function.collect told former, argument.collect told later, same⟩

theorem readTexts_field {decoder : Decoder α} (reads : decoder.ReadsTexts) (name : String) (absence : Absence α) :
    (field name decoder absence).ReadTexts where
  collect {p q index value} told collected := by
    rcases told.cases name index with ⟨absent, missing⟩ | ⟨place, json, other, document, here, there, stands⟩
    · simp only [field, absent] at collected
      simp only [field, missing, ← told.byIndex]
      exact collected
    · simp only [field, here] at collected
      simp only [field, there]
      cases own : json.decode decoder with
      | error error =>
          unfold Json.decode at own
          simp [own] at collected
      | ok inner =>
          rw [reads.read stands own]
          unfold Json.decode at own
          rwa [own] at collected

theorem ReadTexts.andField {first : Fields (α → β)} {decoder : Decoder α} {name : String} {absence : Absence α}
    (former : first.ReadTexts) (reads : decoder.ReadsTexts) : (first <*> field name decoder absence).ReadTexts :=
  former.seq (readTexts_field reads name absence)

end Fields

theorem Decoder.readsTexts_record {α : Type} {fields : Fields α} (name : String) (read : fields.ReadTexts) :
    (record name fields).ReadsTexts := by
  refine readsTexts_of_parts (fun same => by rw [record, record, same]) ?_ ?_
  · intro items values value each taken
    have told := Places.toldBy_ofItems each
    have count : (items.map Source.scanned).length = (values.map Source.value).length := by
      rw [List.length_map, List.length_map, each.length_eq]
    simp only [record, Source.view] at taken ⊢
    cases own : fields.collect (.ofItems (values.map .value)) 0 with
    | complete found =>
        rw [read.collect told own, count]
        rwa [own] at taken
    | broken _ error => simp [own] at taken
    | lacking _ missing => simp [own] at taken
  · intro parts entries value distinct once denoted taken
    have told := Places.toldBy_ofMembers once denoted
    have keys : (parts.map fun part => (part.1, Source.scanned part.2)).map Prod.fst = parts.map Prod.fst := by
      rw [List.map_map]
      rfl
    simp only [record, Source.view_value_object, Source.view_scanned_object, keys,
      repeatedName_of_distinct fields.names distinct] at taken ⊢
    split at taken
    case h_1 => cases taken
    case h_2 =>
      cases own : fields.collect (.ofMembers ((Json.Members.ofList entries).entries.map fun entry =>
          (entry.1, .value entry.2))) 0 with
      | complete found =>
          rw [read.collect told own]
          rwa [own] at taken
      | broken _ error => simp [own] at taken
      | lacking _ missing => simp [own] at taken

end Switchboard
