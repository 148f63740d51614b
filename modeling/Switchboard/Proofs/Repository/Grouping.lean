import Mathlib.Data.List.Induction
import Switchboard.Proofs.Repository.Sending
import Switchboard.Proofs.Table

namespace Switchboard

/-! How a batch is divided. Every entity gets its own commands, in their order. -/

namespace Repository

variable {β σ : Type} {r : Repository β σ} {key : EntityKey} {placed : List (Nat × Signal)}

def own (r : Repository β σ) (key : EntityKey) (placed : List (Nat × Signal)) : List (Nat × Signal) :=
  placed.filter fun command => r.keyOf? command.2 = some key

theorem own_cons {command : Nat × Signal} : r.own key (command :: placed) =
    if r.keyOf? command.2 = some key then command :: r.own key placed else r.own key placed := by
  simp [own, List.filter_cons]

theorem own_append {command : Nat × Signal} : r.own key (placed ++ [command]) =
    r.own key placed ++ if r.keyOf? command.2 = some key then [command] else [] := by
  simp [own, List.filter_append, List.filter_cons]

theorem find?_grouped : (r.grouped placed).find? key =
    if r.own key placed = [] then none else some (r.own key placed) := by
  induction placed using List.reverseRecOn with
  | nil => rfl
  | append_singleton earlier command ih =>
      simp only [grouped, List.foldl_append, List.foldl_cons, List.foldl_nil, own_append] at ih ⊢
      cases target : r.keyOf? command.2 with
      | none => simpa using ih
      | some place =>
          by_cases here : place = key
          · subst here
            by_cases first : r.own place earlier = []
            · simp [Table.find?_insert, ih, first]
            · simp [Table.find?_insert, ih, first]
          · simpa [Table.find?_insert, here] using ih

/-- The groups of a batch are the entities that it has commands for, with these commands. -/
theorem mem_grouped {group : List (Nat × Signal)} :
    (key, group) ∈ (r.grouped placed).entries ↔ group = r.own key placed ∧ group ≠ [] := by
  constructor
  · intro member
    have found := Table.find?_of_mem member
    rw [find?_grouped] at found
    split at found
    · cases found
    · rename_i some
      cases found
      exact ⟨rfl, some⟩
  · rintro ⟨rfl, some⟩
    apply Table.mem_of_valueIn
    exact find?_grouped.trans (if_neg some)

variable {commands : List Signal}

theorem mem_placed {place : Nat} {command : Signal} :
    (place, command) ∈ commands.zipIdx.map Prod.swap ↔ commands[place]? = some command := by
  simp [List.mem_zipIdx_iff_getElem?]

theorem keys_grouped : key ∈ (r.grouped (commands.zipIdx.map Prod.swap)).entries.map Prod.fst ↔
    ∃ command ∈ commands, r.keyOf? command = some key := by
  constructor
  · intro member
    obtain ⟨⟨place, group⟩, entry, rfl⟩ := List.mem_map.mp member
    obtain ⟨same, some⟩ := mem_grouped.mp entry
    obtain ⟨⟨_, command⟩, own⟩ := List.exists_mem_of_ne_nil _ (same ▸ some)
    obtain ⟨placed, target⟩ := List.mem_filter.mp own
    exact ⟨command, List.mem_of_getElem? (mem_placed.mp placed), by simpa using target⟩
  · rintro ⟨command, member, target⟩
    obtain ⟨place, found⟩ := List.getElem?_of_mem member
    have own : (place, command) ∈ r.own key (commands.zipIdx.map Prod.swap) :=
      List.mem_filter.mpr ⟨mem_placed.mpr found, by simpa using target⟩
    exact List.mem_map.mpr ⟨_, mem_grouped.mpr ⟨rfl, List.ne_nil_of_mem own⟩, rfl⟩

theorem grouped_formed (r : Repository β σ) (placed : List (Nat × Signal)) :
    ∀ group ∈ (r.grouped placed).entries, r.cache.normalize group.1 = group.1 ∧ group.2 ≠ [] := by
  rintro ⟨key, group⟩ member
  obtain ⟨rfl, some⟩ := mem_grouped.mp member
  obtain ⟨⟨_, command⟩, own⟩ := List.exists_mem_of_ne_nil _ some
  exact ⟨keyOf_normal (by simpa using (List.mem_filter.mp own).2), some⟩

end Repository

end Switchboard
