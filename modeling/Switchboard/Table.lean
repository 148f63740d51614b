namespace Switchboard

/-! Tables: values under keys, in the order in which the keys came in. -/

structure Table (κ α : Type) where
  entries : List (κ × α)
  distinct : (entries.map Prod.fst).Nodup

namespace Table

variable {κ α β : Type}

def empty : Table κ α := ⟨[], by simp⟩

instance : Inhabited (Table κ α) := ⟨empty⟩

def size (t : Table κ α) : Nat := t.entries.length

def isEmpty (t : Table κ α) : Bool := t.entries.isEmpty

def keys (t : Table κ α) : List κ := t.entries.map Prod.fst

def values (t : Table κ α) : List α := t.entries.map Prod.snd

variable [DecidableEq κ]

/-- The value of the first entry with that key. -/
def valueIn (key : κ) : List (κ × α) → Option α
  | [] => none
  | (other, value) :: rest => if other = key then some value else valueIn key rest

def find? (t : Table κ α) (key : κ) : Option α := valueIn key t.entries

def contains (t : Table κ α) (key : κ) : Bool := (t.find? key).isSome

/-- The entries with that value under a key. A key that is there keeps its place; any
other comes last. -/
def put (key : κ) (value : α) : List (κ × α) → List (κ × α)
  | [] => [(key, value)]
  | (other, old) :: rest =>
      if other = key then (key, value) :: rest else (other, old) :: put key value rest

theorem mem_keys_put {key other : κ} {value : α} {entries : List (κ × α)} :
    other ∈ (put key value entries).map Prod.fst ↔ other = key ∨ other ∈ entries.map Prod.fst := by
  induction entries with
  | nil => simp [put]
  | cons entry rest ih =>
      obtain ⟨first, old⟩ := entry
      by_cases same : first = key
      · simp [put, same]
      · simp only [put, if_neg same, List.map_cons, List.mem_cons, ih]
        exact or_left_comm

theorem nodup_put {key : κ} {value : α} {entries : List (κ × α)}
    (distinct : (entries.map Prod.fst).Nodup) : ((put key value entries).map Prod.fst).Nodup := by
  induction entries with
  | nil => simp [put]
  | cons entry rest ih =>
      obtain ⟨first, old⟩ := entry
      simp only [List.map_cons, List.nodup_cons] at distinct
      by_cases same : first = key
      · simpa [put, ← same] using distinct
      · simp only [put, if_neg same, List.map_cons, List.nodup_cons, mem_keys_put, not_or]
        exact ⟨⟨same, distinct.1⟩, ih distinct.2⟩

def insert (t : Table κ α) (key : κ) (value : α) : Table κ α :=
  ⟨put key value t.entries, nodup_put t.distinct⟩

def erase (t : Table κ α) (key : κ) : Table κ α :=
  ⟨t.entries.filter fun entry => entry.1 ≠ key,
    t.distinct.sublist (List.Sublist.map _ List.filter_sublist)⟩

def map (f : α → β) (t : Table κ α) : Table κ β :=
  ⟨t.entries.map fun entry => (entry.1, f entry.2), by simpa [Function.comp_def] using t.distinct⟩

/-- The table with these entries; of several with one key the last counts. -/
def ofList (entries : List (κ × α)) : Table κ α :=
  entries.foldl (fun t entry => t.insert entry.1 entry.2) empty

@[simp] theorem find?_empty (key : κ) : (empty : Table κ α).find? key = none := rfl

@[grind =] theorem find?_insert (t : Table κ α) (key other : κ) (value : α) :
    (t.insert key value).find? other = if key = other then some value else t.find? other := by
  obtain ⟨entries, distinct⟩ := t
  simp only [insert, find?]
  clear distinct
  induction entries with
  | nil => rfl
  | cons entry rest ih => grind [put, valueIn]

@[grind =] theorem find?_erase (t : Table κ α) (key other : κ) :
    (t.erase key).find? other = if key = other then none else t.find? other := by
  obtain ⟨entries, distinct⟩ := t
  simp only [erase, find?]
  clear distinct
  induction entries with
  | nil => simp [valueIn]
  | cons entry rest ih => grind [valueIn]

theorem find?_map (f : α → β) (t : Table κ α) (key : κ) :
    (t.map f).find? key = (t.find? key).map f := by
  obtain ⟨entries, distinct⟩ := t
  simp only [map, find?]
  clear distinct
  induction entries with
  | nil => rfl
  | cons entry rest ih =>
      obtain ⟨other, value⟩ := entry
      by_cases same : other = key
      · simp [valueIn, same]
      · simpa [valueIn, same] using ih

end Table

end Switchboard
