import Switchboard.Json.Document

namespace Switchboard.Json

/-! The members of objects whose keys are known only at run time. -/

theorem mem_insertMember {key : String} {value : Json} {entry : String × Json}
    {entries : List (String × Json)} (member : entry ∈ insertMember key value entries) :
    entry = (key, value) ∨ entry ∈ entries := by
  induction entries with
  | nil => simpa [insertMember] using member
  | cons first rest ih =>
      obtain ⟨other, old⟩ := first
      simp only [insertMember] at member
      split at member
      · simpa using member
      · split at member
        · rcases List.mem_cons.mp member with same | later
          · exact .inl same
          · exact .inr (List.mem_cons_of_mem _ later)
        · rcases List.mem_cons.mp member with same | later
          · exact .inr (same ▸ List.mem_cons_self)
          · exact (ih later).imp id (List.mem_cons_of_mem _)

theorem ascending_insertMember {key : String} {value : Json} {entries : List (String × Json)}
    (ascending : entries.Pairwise fun a b => a.1 < b.1) :
    (insertMember key value entries).Pairwise fun a b => a.1 < b.1 := by
  induction entries with
  | nil => simp [insertMember]
  | cons first rest ih =>
      obtain ⟨other, old⟩ := first
      obtain ⟨bound, tail⟩ := List.pairwise_cons.mp ascending
      simp only [insertMember]
      split
      · rename_i less
        refine List.pairwise_cons.mpr ⟨fun entry member => ?_, ascending⟩
        rcases List.mem_cons.mp member with same | later
        · exact same ▸ less
        · exact String.lt_trans less (bound entry later)
      · rename_i notLess
        split
        · rename_i same
          exact List.pairwise_cons.mpr ⟨same ▸ bound, tail⟩
        · rename_i different
          have greater : other < key := Std.lt_of_le_of_ne notLess (Ne.symm different)
          refine List.pairwise_cons.mpr ⟨fun entry member => ?_, ih tail⟩
          rcases mem_insertMember member with same | earlier
          · exact same ▸ greater
          · exact bound entry earlier

/-- Values by ascending key, each key once. -/
structure Members where
  entries : List (String × Json)
  ascending : entries.Pairwise fun a b => a.1 < b.1
deriving DecidableEq, Repr

namespace Members

def empty : Members := ⟨[], .nil⟩

def isEmpty (m : Members) : Bool := m.entries.isEmpty

def insert (m : Members) (key : String) (value : Json) : Members :=
  ⟨insertMember key value m.entries, ascending_insertMember m.ascending⟩

/-- All entries of a list; of several with one key the last counts. -/
def ofList (entries : List (String × Json)) : Members :=
  entries.foldl (fun m entry => m.insert entry.1 entry.2) empty

def encode (m : Members) : Json := .object m.entries

end Members

end Switchboard.Json
