import Switchboard.Table

namespace Switchboard.Table

/-! What stands in a table, entry by entry. -/

variable {κ α : Type} [DecidableEq κ]

theorem valueIn_of_mem {entries : List (κ × α)} {key : κ} {value : α}
    (distinct : (entries.map Prod.fst).Nodup) (member : (key, value) ∈ entries) :
    valueIn key entries = some value := by
  induction entries with
  | nil => cases member
  | cons entry rest ih =>
      obtain ⟨other, old⟩ := entry
      obtain ⟨absent, distinct⟩ := List.nodup_cons.mp distinct
      rcases List.mem_cons.mp member with same | member
      · cases same
        simp [valueIn]
      · have different : other ≠ key := by
          rintro rfl
          exact absent (List.mem_map.mpr ⟨_, member, rfl⟩)
        simp [valueIn, different, ih distinct member]

theorem find?_of_mem {t : Table κ α} {key : κ} {value : α} (member : (key, value) ∈ t.entries) :
    t.find? key = some value :=
  valueIn_of_mem t.distinct member

theorem mem_of_valueIn {entries : List (κ × α)} {key : κ} {value : α}
    (found : valueIn key entries = some value) : (key, value) ∈ entries := by
  induction entries with
  | nil => cases found
  | cons entry rest ih =>
      obtain ⟨other, old⟩ := entry
      by_cases same : other = key
      · subst same
        simp only [valueIn, if_true, Option.some.injEq] at found
        simp [found]
      · simp only [valueIn, if_neg same] at found
        exact List.mem_cons_of_mem _ (ih found)

theorem mem_keys {t : Table κ α} {key : κ} : key ∈ t.keys ↔ (t.find? key).isSome := by
  rw [Option.isSome_iff_exists]
  constructor
  · intro member
    obtain ⟨⟨_, value⟩, among, rfl⟩ := List.mem_map.mp member
    exact ⟨value, find?_of_mem among⟩
  · intro ⟨value, found⟩
    exact List.mem_map.mpr ⟨(key, value), mem_of_valueIn found, rfl⟩

theorem mem_values {t : Table κ α} {value : α} : value ∈ t.values ↔ ∃ key, t.find? key = some value := by
  constructor
  · intro member
    obtain ⟨⟨key, _⟩, among, rfl⟩ := List.mem_map.mp member
    exact ⟨key, find?_of_mem among⟩
  · rintro ⟨key, found⟩
    exact List.mem_map.mpr ⟨(key, value), mem_of_valueIn found, rfl⟩

/-- If none of the values is kept, only the one that is put in may be. -/
theorem filter_insert {t : Table κ α} {keep : α → Bool} (none : t.values.filter keep = []) (key : κ)
    (value : α) : (t.insert key value).values.filter keep = [value].filter keep := by
  obtain ⟨entries, distinct⟩ := t
  simp only [values, insert] at none ⊢
  clear distinct
  induction entries with
  | nil => rfl
  | cons entry rest ih =>
      obtain ⟨other, old⟩ := entry
      rw [List.map_cons, List.filter_eq_nil_iff, List.forall_mem_cons] at none
      have left := List.filter_eq_nil_iff.mpr none.2
      by_cases same : other = key
      · rw [put, if_pos same, List.map_cons, ← List.singleton_append, List.filter_append, left, List.append_nil]
      · rw [put, if_neg same, List.map_cons, List.filter_cons_of_neg none.1, ih left]

theorem insert_insert (t : Table κ α) (key : κ) (first last : α) :
    (t.insert key first).insert key last = t.insert key last := by
  obtain ⟨entries, distinct⟩ := t
  simp only [insert, mk.injEq]
  clear distinct
  induction entries with
  | nil => simp [put]
  | cons entry rest ih =>
      obtain ⟨other, old⟩ := entry
      by_cases same : other = key <;> simp [put, same, ih]

/-- Nothing but a key that was not there before comes in, and it comes last. -/
theorem keys_prefix_insert (t : Table κ α) (key : κ) (value : α) : t.keys <+: (t.insert key value).keys := by
  obtain ⟨entries, distinct⟩ := t
  simp only [keys, insert]
  clear distinct
  induction entries with
  | nil => exact List.nil_prefix
  | cons entry rest ih =>
      obtain ⟨other, old⟩ := entry
      by_cases same : other = key
      · simp [put, same]
      · simpa [put, same] using ih

theorem keys_insert_of_mem {t : Table κ α} {key : κ} (known : key ∈ t.keys) (value : α) :
    (t.insert key value).keys = t.keys := by
  obtain ⟨entries, distinct⟩ := t
  simp only [keys, insert] at known ⊢
  clear distinct
  induction entries with
  | nil => cases known
  | cons entry rest ih =>
      obtain ⟨other, old⟩ := entry
      by_cases same : other = key
      · simp [put, same]
      · have later : key ∈ rest.map Prod.fst := by simpa [Ne.symm same] using known
        simp [put, same, ih later]

theorem keys_erase_sublist (t : Table κ α) (key : κ) : (t.erase key).keys.Sublist t.keys :=
  List.filter_sublist.map _

/-- A table is its keys in their order and what stands under them. -/
theorem eq_of_keys {t u : Table κ α} (keys : t.keys = u.keys) (same : ∀ key, t.find? key = u.find? key) : t = u := by
  have read : ∀ v : Table κ α, v.entries.map (fun entry => (entry.1, some entry.2)) =
      v.keys.map fun key => (key, v.find? key) := by
    intro v
    rw [Table.keys, List.map_map]
    refine List.map_congr_left fun entry member => ?_
    rw [Function.comp_apply, find?_of_mem member]
  have entries : t.entries.map (fun entry => (entry.1, some entry.2)) =
      u.entries.map fun entry => (entry.1, some entry.2) := by
    rw [read, read, keys]
    exact List.map_congr_left fun key _ => by rw [same]
  obtain ⟨first, _⟩ := t
  obtain ⟨last, _⟩ := u
  rw [mk.injEq]
  exact (List.map_inj_right fun x y equal => by simpa [Prod.ext_iff] using equal).mp entries

theorem find?_insertAll_of_notMem {t : Table κ α} {entries : List (κ × α)} {key : κ}
    (absent : key ∉ entries.map Prod.fst) :
    (entries.foldl (fun t entry => t.insert entry.1 entry.2) t).find? key = t.find? key := by
  induction entries generalizing t with
  | nil => rfl
  | cons entry rest ih =>
      rw [List.map_cons, List.mem_cons, not_or] at absent
      rw [List.foldl_cons, ih absent.2, find?_insert, if_neg (Ne.symm absent.1)]

/-- Of entries with different keys each can be found. -/
theorem find?_ofList {entries : List (κ × α)} {key : κ} {value : α} (distinct : (entries.map Prod.fst).Nodup)
    (member : (key, value) ∈ entries) : (ofList entries).find? key = some value := by
  obtain ⟨before, after, rfl⟩ := List.append_of_mem member
  rw [List.map_append, List.map_cons] at distinct
  have last := (List.nodup_cons.mp (List.nodup_append.mp distinct).2.1).1
  rw [ofList, List.foldl_append, List.foldl_cons, find?_insertAll_of_notMem last, find?_insert, if_pos rfl]

end Switchboard.Table
