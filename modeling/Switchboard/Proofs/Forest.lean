namespace Switchboard

/-! Forests, and the order in which they are gone through level by level. -/

inductive Tree (α : Type) where
  | node (value : α) (children : List (Tree α))

namespace Tree

variable {α : Type}

def value : Tree α → α
  | .node value _ => value

def children : Tree α → List (Tree α)
  | .node _ children => children

mutual

/-- How many nodes a tree has. -/
def size : Tree α → Nat
  | .node _ children => sizes children + 1

def sizes : List (Tree α) → Nat
  | [] => 0
  | tree :: rest => tree.size + sizes rest

end

/-- The trees one level below the roots. -/
def nextLevel (forest : List (Tree α)) : List (Tree α) := forest.flatMap children

theorem nextLevel_append (first last : List (Tree α)) : nextLevel (first ++ last) = nextLevel first ++ nextLevel last :=
  List.flatMap_append ..

theorem sizes_append (first last : List (Tree α)) : sizes (first ++ last) = sizes first + sizes last := by
  induction first with
  | nil => exact (Nat.zero_add _).symm
  | cons tree rest ih => rw [List.cons_append, sizes, sizes, ih, Nat.add_assoc]

theorem sizes_nextLevel (forest : List (Tree α)) : sizes (nextLevel forest) + forest.length = sizes forest := by
  induction forest with
  | nil => rfl
  | cons tree rest ih =>
      obtain ⟨value, inner⟩ := tree
      have split : nextLevel (.node value inner :: rest) = inner ++ nextLevel rest := rfl
      rw [split, sizes_append, sizes, size, ← ih, List.length_cons]
      omega

theorem sizes_nextLevel_lt {forest : List (Tree α)} (some : forest ≠ []) : sizes (nextLevel forest) < sizes forest := by
  have counted := sizes_nextLevel forest
  have positive := List.length_pos_iff.mpr some
  omega

/-- The values of a forest: those of the roots first, then those one level below, and so on. -/
def levelOrder (forest : List (Tree α)) : List α :=
  if _ : forest = [] then [] else forest.map value ++ levelOrder (nextLevel forest)
termination_by sizes forest
decreasing_by exact sizes_nextLevel_lt (by assumption)

theorem levelOrder_eq (forest : List (Tree α)) :
    levelOrder forest = forest.map value ++ levelOrder (nextLevel forest) := by
  by_cases bare : forest = []
  · subst bare
    simp [levelOrder, nextLevel]
  · rw [levelOrder, dif_neg bare]

/-- Trees can be taken from the front when the trees below them are put behind the rest. -/
theorem levelOrder_append (first last : List (Tree α)) :
    levelOrder (first ++ last) = first.map value ++ levelOrder (last ++ nextLevel first) := by
  by_cases bare : first = []
  · subst bare
    simp [nextLevel]
  · -- one level down both sides are divided in the same way again
    have smaller : sizes (nextLevel first) + sizes (nextLevel last) < sizes first + sizes last := by
      have here := sizes_nextLevel_lt bare
      have there := sizes_nextLevel last
      omega
    rw [levelOrder_eq, levelOrder_eq (last ++ nextLevel first), List.map_append, List.map_append, nextLevel_append,
      nextLevel_append, levelOrder_append (nextLevel first) (nextLevel last), List.append_assoc, List.append_assoc]
termination_by sizes first + sizes last

theorem levelOrder_cons (tree : Tree α) (rest : List (Tree α)) :
    levelOrder (tree :: rest) = tree.value :: levelOrder (rest ++ tree.children) := by
  have front := levelOrder_append [tree] rest
  have inner : nextLevel [tree] = tree.children := List.flatMap_singleton ..
  rwa [inner] at front

theorem length_levelOrder (forest : List (Tree α)) : (levelOrder forest).length = sizes forest := by
  by_cases bare : forest = []
  · subst bare
    simp [levelOrder, sizes]
  · have below := length_levelOrder (nextLevel forest)
    have counted := sizes_nextLevel forest
    rw [levelOrder_eq, List.length_append, List.length_map, below]
    omega
termination_by sizes forest
decreasing_by exact sizes_nextLevel_lt bare

theorem levelOrder_perm {forest other : List (Tree α)} (perm : forest.Perm other) :
    (levelOrder forest).Perm (levelOrder other) := by
  by_cases bare : forest = []
  · subst bare
    rw [perm.nil_eq]
  · have below := levelOrder_perm (perm.flatMap_right children)
    rw [levelOrder_eq, levelOrder_eq other]
    exact (perm.map value).append below
termination_by sizes forest
decreasing_by exact sizes_nextLevel_lt bare

section Pick

variable (before after : List (Tree α)) (tree : Tree α)

/-- Any tree can be taken first, save for the order. -/
theorem levelOrder_pick : (levelOrder (before ++ tree :: after)).Perm
    (tree.value :: levelOrder (before ++ after ++ tree.children)) := by
  rw [← levelOrder_cons]
  exact levelOrder_perm List.perm_middle

theorem sizes_pick : sizes (before ++ tree :: after) = sizes (before ++ after ++ tree.children) + 1 := by
  obtain ⟨value, inner⟩ := tree
  simp only [sizes_append, sizes, size, children]
  omega

end Pick

end Tree

end Switchboard
