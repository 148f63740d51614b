import Switchboard.Proofs.Entity.RecordFiles

namespace Switchboard

/-! Where the files of records are, and where they are before they take their places. -/

variable {ρ : Type} {key : EntityKey}

namespace FileSystem

/-- A path as it is written. -/
def written (path : List String) : List Char := ['/'].intercalate (path.map String.toList)

/-- The names on the way that a written path takes. Nothing between two separators and a single dot lead nowhere. -/
def names (text : List Char) : List (List Char) := (text.splitOn '/').filter fun name => name ≠ [] ∧ name ≠ ['.']

/-- A name that stands for one thing in its directory, wherever it is put. -/
def IsName (name : String) : Prop :=
  name ≠ "" ∧ name ≠ "." ∧ name ≠ ".." ∧ ∀ c ∈ name.toList, c ≠ '/' ∧ c ≠ '\\' ∧ c ≠ '\x00'

instance (name : String) : Decidable (IsName name) :=
  decidable_of_iff (name ≠ "" ∧ name ≠ "." ∧ name ≠ ".." ∧ name.toList.all fun c => c ≠ '/' ∧ c ≠ '\\' ∧ c ≠ '\x00')
    (by simp only [List.all_eq_true, decide_eq_true_eq, IsName])

/-- A name without its extension, which begins with the last dot. A dot at the start begins none, and neither does
the second of `..`. -/
def stem (name : String) : String :=
  match name.toList.reverse.dropWhile (· ≠ '.') with
  | [] => name
  | _ :: before => if before = [] ∨ name = ".." then name else String.ofList before.reverse

/-- The path beside another that has a different extension. -/
def withExtension (path : List String) (extension : String) : List String :=
  match path.getLast? with
  | none => path
  | some name => path.dropLast ++ [stem name ++ "." ++ extension]

theorem names_separated (before after : List Char) : names (before ++ '/' :: after) = names before ++ names after := by
  have cut : (before ++ '/' :: after).splitOn '/' = before.splitOn '/' ++ after.splitOn '/' :=
    List.splitOnP_append_cons before after (beq_self_eq_true '/')
  rw [names, cut, List.filter_append]
  rfl

/-- A written path leads along its parts one after another. -/
theorem names_written (path : List String) : names (written path) = path.flatMap fun part => names part.toList := by
  induction path with
  | nil => rfl
  | cons part rest ih =>
      cases rest with
      | nil => simp [written]
      | cons next rest =>
          have joined : written (part :: next :: rest) = part.toList ++ '/' :: written (next :: rest) := by
            simp [written, List.intercalate_cons_cons]
          rw [joined, names_separated, ih]
          rfl

theorem IsName.names {name : String} (proper : IsName name) : FileSystem.names name.toList = [name.toList] := by
  obtain ⟨filled, other, -, letters⟩ := proper
  have whole : name.toList.splitOn '/' = [name.toList] :=
    List.splitOn_eq_singleton fun separator => (letters '/' separator).1 rfl
  have notEmpty : name.toList ≠ [] := fun empty => filled (String.toList_inj.mp empty)
  have notDot : name.toList ≠ ['.'] := fun dot => other (String.toList_inj.mp dot)
  rw [FileSystem.names, whole, List.filter_singleton, decide_eq_true ⟨notEmpty, notDot⟩]
  rfl

/-- Names put below a directory lead from there through one after another. -/
theorem names_below (directory : List String) {below : List String} (proper : ∀ name ∈ below, IsName name) :
    names (written (directory ++ below)) = names (written directory) ++ below.map String.toList := by
  have each : below.flatMap (fun name => names name.toList) = below.map String.toList := by
    induction below with
    | nil => rfl
    | cons name rest ih =>
        obtain ⟨first, others⟩ := List.forall_mem_cons.mp proper
        rw [List.flatMap_cons, first.names, ih others, List.map_cons, List.singleton_append]
  rw [names_written, List.flatMap_append, each, ← names_written]

/-- Two names make one, if the other is longer than dots can be. -/
theorem IsName.append {name ending : String} (proper : IsName name) (extra : IsName ending) (long : 2 < ending.length) :
    IsName (name ++ ending) := by
  have length : 2 < (name ++ ending).length := by
    rw [String.length_append]
    omega
  have different {dots : String} (short : dots.length ≤ 2) : name ++ ending ≠ dots := fun same =>
    absurd (same ▸ length) (Nat.not_lt.mpr short)
  refine ⟨different (by decide), different (by decide), different (by decide), fun c member => ?_⟩
  rw [String.toList_append] at member
  exact (List.mem_append.mp member).elim (proper.2.2.2 c) (extra.2.2.2 c)

/-- Whatever dots a name has of its own, the extension that it was given last is the one to go. -/
theorem stem_append {name extension : String} (filled : name ≠ "") (present : extension ≠ "")
    (undotted : '.' ∉ extension.toList) : stem (name ++ "." ++ extension) = name := by
  have backwards : (name ++ "." ++ extension).toList.reverse =
      extension.toList.reverse ++ '.' :: name.toList.reverse := by
    simp
  have dropped : (extension.toList.reverse ++ '.' :: name.toList.reverse).dropWhile (· ≠ '.') =
      '.' :: name.toList.reverse := by
    rw [List.dropWhile_append_of_pos]
    · rfl
    · intro c member
      exact decide_eq_true fun dot => undotted (dot ▸ List.mem_reverse.mp member)
  have notEmpty : name.toList.reverse ≠ [] := by simpa using filled
  have notDots : name ++ "." ++ extension ≠ ".." := by
    intro same
    rw [same] at backwards
    cases letters : extension.toList.reverse with
    | nil => exact present (by simpa using letters)
    | cons last rest =>
        rw [letters] at backwards
        have dot : '.' = last := (List.cons.inj backwards).1
        have member : last ∈ extension.toList.reverse := by simp [letters]
        exact undotted (dot ▸ List.mem_reverse.mp member)
  rw [stem, backwards, dropped]
  simp only [notEmpty, notDots, or_self, if_false, List.reverse_reverse, String.ofList_toList]

end FileSystem

open FileSystem

theorem nameFault_eq_none {name : String} : nameFault name = none ↔ IsName name := by
  unfold nameFault IsName
  split
  case isTrue empty => simp_all
  case isFalse filled =>
    split
    case isTrue dots => rcases dots with rfl | rfl <;> simp
    case isFalse dots => simp_all [not_or]

namespace EntityKey

/-- Everything that a key gives to the path of its record can stand there as a name. -/
structure Fits (key : EntityKey) : Prop where
  tenant : ∀ tenant, key.tenant = some tenant → IsName tenant.name
  type : IsName key.type
  id : IsName key.id

theorem fault_eq_none : key.fault = none ↔ key.Fits := by
  have directory : IsName key.directoryOfTenant ↔ ∀ tenant, key.tenant = some tenant → IsName tenant.name := by
    obtain ⟨_ | tenant, type, id⟩ := key
    · simp only [directoryOfTenant, reduceCtorEq, false_imp_iff, implies_true, iff_true]
      decide
    · simp [directoryOfTenant]
  simp only [fault, List.findSome?_eq_none_iff, List.forall_mem_cons, List.not_mem_nil, false_imp_iff, implies_true,
    and_true, nameFault_eq_none, directory]
  exact ⟨fun all => ⟨all.1, all.2.1, all.2.2⟩, fun fits => ⟨fits.tenant, fits.type, fits.id⟩⟩

end EntityKey

namespace RecordFiles

/-- The file that is written first has the name of the other, with another extension. -/
theorem temporaryPath_eq (r : RecordFiles ρ) (fits : key.Fits) :
    r.temporaryPath key = withExtension (r.base ++ key.directory ++ [key.id ++ ".json"]) "json.tmp" := by
  have record : key.id ++ ".json" = key.id ++ "." ++ "json" := String.append_assoc ▸ rfl
  have temporary : key.id ++ ".json.tmp" = key.id ++ "." ++ "json.tmp" := String.append_assoc ▸ rfl
  simp only [temporaryPath, withExtension, List.getLast?_concat, List.dropLast_concat]
  rw [record, stem_append fits.id.1 (by decide) (by decide), temporary]

/-- A record has a file unless its entity has a name that leads elsewhere. The file is where the names lead to from
the base directory, and what is written first lies beside it and in no record's place. -/
theorem records_stay_inside (r : RecordFiles ρ) (key : EntityKey) :
    let below := ["entities", key.tenant.elim "_shared" TenantId.name, key.type, key.id ++ ".json"]
    ((∃ reason, r.recordPath key = .error (.invalidKey key reason)) ↔ ¬ key.Fits) ∧
    (r.recordPath key = .ok (r.base ++ below) ↔ key.Fits) ∧
    ∀ path, r.recordPath key = .ok path →
      (∀ name ∈ below, IsName name) ∧
      names (written path) = names (written r.base) ++ below.map String.toList ∧
      r.temporaryPath key = withExtension path "json.tmp" ∧
      (r.temporaryPath key).dropLast = path.dropLast ∧
      ∀ other place, r.recordPath other = .ok place → r.temporaryPath key ≠ place := by
  intro below
  have filed : r.base ++ below = r.base ++ key.directory ++ [key.id ++ ".json"] := by
    obtain ⟨_ | tenant, type, id⟩ := key <;> simp [below, EntityKey.directory, EntityKey.directoryOfTenant,
      EntityKey.sharedDirectory]
  have refused : (∃ reason, r.recordPath key = .error (.invalidKey key reason)) ↔ ¬ key.Fits := by
    rw [← EntityKey.fault_eq_none]
    cases faulty : key.fault <;> simp [recordPath, faulty]
  have found : r.recordPath key = .ok (r.base ++ below) ↔ key.Fits := by
    rw [recordPath_ok, EntityKey.fault_eq_none, filed]
    exact and_iff_left rfl
  refine ⟨refused, found, fun path accepted => ?_⟩
  obtain ⟨faultless, rfl⟩ := recordPath_ok.mp accepted
  have fits := EntityKey.fault_eq_none.mp faultless
  have proper : ∀ name ∈ below, IsName name := by
    have tenant : IsName (key.tenant.elim "_shared" TenantId.name) := by
      cases named : key.tenant with
      | none => decide
      | some tenant => exact fits.tenant tenant named
    have file : IsName (key.id ++ ".json") := fits.id.append (by decide) (by decide)
    simp only [below, List.forall_mem_cons, List.not_mem_nil, false_imp_iff, implies_true, and_true]
    exact ⟨by decide, tenant, fits.type, file⟩
  refine ⟨proper, ?_, temporaryPath_eq r fits, ?_, fun other place elsewhere => temporaryPath_ne elsewhere⟩
  · rw [← filed, names_below r.base proper]
  · rw [temporaryPath, List.dropLast_concat, List.dropLast_concat]

namespace Drawer

def acmeNote (id : String) : EntityKey := ⟨some ⟨"acme"⟩, "note", id⟩

def acmeFile (name : String) : List String := ["data", "entities", "acme", "note", name]

end Drawer

/-- A note may be named like what another one's file is called at first. Nothing leads out of the base directory. -/
theorem records_stay_inside_drawer :
    (∃ reason, Drawer.files.recordPath (Drawer.acmeNote "..") = .error (.invalidKey (Drawer.acmeNote "..") reason)) ∧
    Drawer.files.recordPath (Drawer.acmeNote "..p") = .ok (Drawer.acmeFile "..p.json") ∧
    Drawer.files.recordPath (Drawer.acmeNote "..p.json.tmp") = .ok (Drawer.acmeFile "..p.json.tmp.json") ∧
    FileSystem.names (written (Drawer.acmeFile "..p.json")) =
      FileSystem.names (written ["data"]) ++ ["entities", "acme", "note", "..p.json"].map String.toList ∧
    Drawer.files.temporaryPath (Drawer.acmeNote "..p") = withExtension (Drawer.acmeFile "..p.json") "json.tmp" ∧
    Drawer.files.temporaryPath (Drawer.acmeNote "..p") ≠ Drawer.acmeFile "..p.json.tmp.json" := by
  have refused : ¬ (Drawer.acmeNote "..").Fits := fun fits => fits.id.2.2.1 rfl
  have filed : Drawer.files.recordPath (Drawer.acmeNote "..p") = .ok (Drawer.acmeFile "..p.json") := by decide +kernel
  have elsewhere : Drawer.files.recordPath (Drawer.acmeNote "..p.json.tmp") =
      .ok (Drawer.acmeFile "..p.json.tmp.json") := by decide +kernel
  obtain ⟨-, way, beside, -, apart⟩ := (records_stay_inside Drawer.files (Drawer.acmeNote "..p")).2.2 _ filed
  exact ⟨(records_stay_inside Drawer.files (Drawer.acmeNote "..")).1.mpr refused, filed, elsewhere, way, beside,
    apart _ _ elsewhere⟩

end RecordFiles

end Switchboard
