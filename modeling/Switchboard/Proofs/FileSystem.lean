import Mathlib.Data.List.Induction
import Switchboard.FileSystem

namespace Switchboard.FileSystem

/-! What is where in a tree of files, before and after each operation. -/

variable {fs after : FileSystem} {path : List String} {name : String}

/-- Whatever there is lies in a directory, under a name that is not too long. -/
structure Proper (fs : FileSystem) : Prop where
  within : ∀ {path name node}, fs.node? (path ++ [name]) = some node → fs.node? path = some .directory
  short : ∀ {path name node}, fs.node? (path ++ [name]) = some node → name.utf8ByteSize ≤ nameLimit

@[simp] theorem node?_top (fs : FileSystem) : fs.node? [] = some .directory := rfl

theorem node?_below (fs : FileSystem) (path : List String) (name : String) :
    fs.node? (path ++ [name]) = fs.nodes.find? (path ++ [name]) := by
  simp [node?]

theorem node?_place (fs : FileSystem) (path : List String) (name : String) (node : FileNode)
    (other : List String) : (fs.place (path ++ [name]) node).node? other =
      if path ++ [name] = other then some node else fs.node? other := by
  rcases List.eq_nil_or_concat other with rfl | ⟨directory, last, rfl⟩
  · simp
  · rw [List.concat_eq_append, node?_below, node?_below, place, Table.find?_insert]

theorem node?_erase {source : List String} {content : String} (file : fs.node? source = some (.file content))
    (other : List String) : (FileSystem.mk (fs.nodes.erase source)).node? other =
      if source = other then none else fs.node? other := by
  rcases List.eq_nil_or_concat other with rfl | ⟨directory, last, rfl⟩
  · have beside : source ≠ [] := by
      rintro rfl
      simp at file
    simp [beside]
  · rw [List.concat_eq_append, node?_below, node?_below, Table.find?_erase]

theorem empty_proper : empty.Proper where
  within found := by simp [node?_below, empty] at found
  short found := by simp [node?_below, empty] at found

namespace Proper

variable (proper : fs.Proper)
include proper

/-- The way to whatever there is leads through directories only. -/
theorem ancestor {rest : List String} {node : FileNode} (found : fs.node? (path ++ name :: rest) = some node) :
    fs.node? path = some .directory ∧ name.utf8ByteSize ≤ nameLimit := by
  induction rest using List.reverseRecOn generalizing node with
  | nil => exact ⟨proper.within found, proper.short found⟩
  | append_singleton rest last ih =>
      have parent : fs.node? (path ++ name :: rest ++ [last]) = some node := by simpa using found
      exact ih (proper.within parent)

theorem follow_ok {start rest : List String} {node : FileNode} :
    fs.follow start rest = .ok node ↔ fs.node? (start ++ rest) = some node := by
  induction rest generalizing start with
  | nil => cases found : fs.node? start <;> simp [follow, found]
  | cons name rest ih =>
      have onward : start ++ name :: rest = start ++ [name] ++ rest := by simp
      constructor
      · intro followed
        rw [onward, ← ih]
        rw [follow] at followed
        split at followed
        · cases followed
        · cases followed
        · split at followed
          · cases followed
          · exact followed
      · intro found
        obtain ⟨directory, short⟩ := proper.ancestor found
        simp only [follow, directory, Nat.not_lt.mpr short, if_false]
        exact ih.mpr (onward ▸ found)

theorem lookup_ok {node : FileNode} : fs.lookup path = .ok node ↔ fs.node? path = some node := by
  have followed : fs.follow [] path = .ok node ↔ fs.node? ([] ++ path) = some node := proper.follow_ok
  exact followed

theorem read_ok {content : String} : fs.read path = .ok content ↔ fs.node? path = some (.file content) := by
  rw [← proper.lookup_ok, read]
  split <;> simp_all

theorem isDirectory_iff : fs.isDirectory path = true ↔ fs.node? path = some .directory := by
  rw [← proper.lookup_ok, isDirectory]
  split <;> simp_all

/-- What is looked up beside others is missing unless its name is too long. -/
theorem lookup_child (directory : fs.node? path = some .directory) :
    fs.lookup (path ++ [name]) =
      if nameLimit < name.utf8ByteSize then .error .nameTooLong else fs.follow (path ++ [name]) [] := by
  suffices onward : ∀ start rest, fs.node? (start ++ rest) = some .directory →
      fs.follow start (rest ++ [name]) = if nameLimit < name.utf8ByteSize then .error .nameTooLong
        else fs.follow (start ++ rest ++ [name]) [] by
    exact onward [] path directory
  intro start rest found
  induction rest generalizing start with
  | nil =>
      rw [List.append_nil] at found
      simp [follow, found]
  | cons first rest ih =>
      obtain ⟨above, short⟩ := proper.ancestor found
      have below := ih (start ++ [first]) (by simpa using found)
      simp only [List.cons_append, follow, above, Nat.not_lt.mpr short, if_false] at below ⊢
      simpa using below

/-- Where something may be placed, there is a directory for it. -/
theorem vacancy_ok {found : Option FileNode} (vacant : fs.vacancy (path ++ [name]) = .ok found) :
    fs.node? path = some .directory ∧ name.utf8ByteSize ≤ nameLimit ∧ fs.node? (path ++ [name]) = found := by
  rw [vacancy, List.dropLast_concat] at vacant
  split at vacant
  case isFalse => split at vacant <;> cases vacant
  case isTrue directory =>
    have above := proper.isDirectory_iff.mp directory
    have looked : fs.lookup (path ++ [name]) = _ := proper.lookup_child above
    by_cases long : nameLimit < name.utf8ByteSize
    · rw [looked, if_pos long] at vacant
      cases vacant
    · rw [if_neg long, follow] at looked
      cases here : fs.node? (path ++ [name]) with
      | none =>
          simp only [looked, here, Except.ok.injEq] at vacant
          exact ⟨above, Nat.le_of_not_lt long, vacant⟩
      | some node =>
          simp only [looked, here, Except.ok.injEq] at vacant
          exact ⟨above, Nat.le_of_not_lt long, vacant⟩

/-- A file may be placed over an old one, and a directory where there is nothing. -/
theorem place {node : FileNode} (above : fs.node? path = some .directory) (short : name.utf8ByteSize ≤ nameLimit)
    (free : fs.node? (path ++ [name]) ≠ some .directory) : (fs.place (path ++ [name]) node).Proper where
  within {directory last child} found := by
    rw [node?_place] at found ⊢
    have beside : path ++ [name] ≠ directory := by
      rintro rfl
      split at found
      case isTrue same => simp at same
      case isFalse => exact free (proper.within found)
    rw [if_neg beside]
    split at found
    case isTrue same => exact (List.append_inj_left' same rfl) ▸ above
    case isFalse => exact proper.within found
  short {directory last child} found := by
    rw [node?_place] at found
    split at found
    case isTrue same =>
      cases List.append_inj_right' same rfl
      exact short
    case isFalse => exact proper.short found

/-- Only what was not there before is made. -/
theorem makeDirectory (made : fs.makeDirectory (path ++ [name]) = .ok after) : after.Proper ∧
    ∀ other, after.node? other = fs.node? other ∨ other = path ++ [name] ∧ fs.node? other = none := by
  rw [FileSystem.makeDirectory] at made
  split at made
  case h_1 => cases made
  case h_2 vacant =>
    cases made
    obtain ⟨above, short, absent⟩ := proper.vacancy_ok vacant
    refine ⟨proper.place above short (by simp [absent]), fun other => ?_⟩
    rw [node?_place]
    split
    case isTrue same => exact .inr ⟨same.symm, same ▸ absent⟩
    case isFalse => exact .inl rfl
  case h_3 =>
    cases made
    exact ⟨proper, fun _ => .inl rfl⟩
  case h_4 => cases made

theorem write {content : String} (written : fs.write (path ++ [name]) content = .ok after) : after.Proper ∧
    ∀ other, after.node? other = if path ++ [name] = other then some (.file content) else fs.node? other := by
  rw [FileSystem.write] at written
  split at written
  · cases written
  · cases written
  · cases written
    rename_i found old vacant
    obtain ⟨above, short, here⟩ := proper.vacancy_ok vacant
    refine ⟨proper.place above short ?_, node?_place fs path name (.file content)⟩
    rintro directory
    exact old (here ▸ directory)

/-- Only what was not there before is made, on the way. -/
theorem makeDirectories (start rest : List String) : (fs.makeDirectories start rest).2.Proper ∧
    ∀ other, (fs.makeDirectories start rest).2.node? other = fs.node? other ∨
      other <+: start ++ rest ∧ fs.node? other = none := by
  induction rest generalizing fs start with
  | nil => exact ⟨proper, fun _ => .inl rfl⟩
  | cons name rest ih =>
      rw [FileSystem.makeDirectories]
      split
      case h_1 => exact ⟨proper, fun _ => .inl rfl⟩
      case h_2 next made =>
        obtain ⟨proper, first⟩ := proper.makeDirectory made
        obtain ⟨proper, others⟩ := ih proper (start ++ [name])
        refine ⟨proper, fun other => ?_⟩
        have onward : start ++ name :: rest = start ++ [name] ++ rest := by simp
        rw [onward]
        rcases first other with same | ⟨rfl, absent⟩
        · simpa only [same] using others other
        · exact .inr ⟨List.prefix_append _ _, absent⟩

/-- Nothing lies below a file. -/
theorem erase {source : List String} {content : String} (file : fs.node? source = some (.file content)) :
    (FileSystem.mk (fs.nodes.erase source)).Proper where
  within {directory last child} found := by
    rw [node?_erase file] at found ⊢
    split at found
    case isTrue => cases found
    case isFalse =>
      have above := proper.within found
      have beside : source ≠ directory := by
        rintro rfl
        rw [file] at above
        cases above
      rw [if_neg beside, above]
  short {directory last child} found := by
    rw [node?_erase file] at found
    split at found
    case isTrue => cases found
    case isFalse => exact proper.short found

theorem rename {source : List String} (moved : fs.rename source (path ++ [name]) = .ok after) : after.Proper ∧
    ∃ content, fs.node? source = some (.file content) ∧ ∀ other, after.node? other =
      if path ++ [name] = other then some (.file content)
      else if source = other then none else fs.node? other := by
  rw [FileSystem.rename] at moved
  split at moved
  case h_1 => cases moved
  case h_2 => cases moved
  case h_3 => cases moved
  case h_4 content found old read vacant =>
    cases moved
    have file := proper.read_ok.mp read
    obtain ⟨above, short, here⟩ := proper.vacancy_ok vacant
    have aside : source ≠ path := by
      rintro rfl
      rw [file] at above
      cases above
    refine ⟨(proper.erase file).place ?_ short ?_, content, file, fun other => ?_⟩
    · rw [node?_erase file, if_neg aside, above]
    · rw [node?_erase file, here]
      split
      · simp
      · exact fun directory => old directory
    · rw [node?_place, node?_erase file]

end Proper

end Switchboard.FileSystem
