import Switchboard.Proofs.Consumer.Founding

namespace Switchboard.Registry

/-! A removal right after a registration takes it back: the registry is again what it was. -/

variable {ω : Type} {r after : Registry ω} {c : Consumer ω} {type : String}

theorem find?_eq (r : Registry ω) (type : String) :
    r.find? type = (r.class? type).map fun message => ⟨message, r.consumers type⟩ := by
  cases found : r.find? type <;> simp [class?, consumers, found]

theorem keys_subscribed (r : Registry ω) (c : Consumer ω) (messages : List MessageClass) :
    r.subscriptions.keys <+: (messages.foldl (fun r message => r.subscribe c message) r).subscriptions.keys := by
  induction messages generalizing r with
  | nil => exact List.prefix_rfl
  | cons message rest ih =>
      exact (Table.keys_prefix_insert r.subscriptions message.name _).trans (ih (r.subscribe c message))

theorem keys_register (registered : Registry.register c r = (.ok (), after)) :
    r.subscriptions.keys <+: after.subscriptions.keys := by
  obtain ⟨-, -, rfl⟩ := register_ok registered
  exact keys_subscribed r c c.classes

theorem keys_release (r : Registry ω) (id type : String) :
    (r.release id type).subscriptions.keys.Sublist r.subscriptions.keys := by
  cases found : r.find? type with
  | none =>
      rw [release, found]
  | some subscription =>
      have known : type ∈ r.subscriptions.keys := Table.mem_keys.mpr (Option.isSome_of_eq_some found)
      simp only [release, found]
      split
      · exact Table.keys_erase_sublist ..
      · rw [Table.keys_insert_of_mem known]

theorem keys_withdrawn (c : Consumer ω) (messages : List MessageClass) (left : List String × Registry ω) :
    (messages.foldl (withdraw c) left).2.subscriptions.keys.Sublist left.2.subscriptions.keys := by
  induction messages generalizing left with
  | nil => exact List.Sublist.refl _
  | cons message rest ih =>
      refine (ih (withdraw c left message)).trans ?_
      obtain ⟨-, here⟩ | ⟨-, here⟩ := withdraw_cases c left message
      · rw [here]
        exact keys_release ..
      · rw [here]

theorem keys_unregister (r : Registry ω) (c : Consumer ω) :
    (r.unregister c).2.subscriptions.keys.Sublist r.subscriptions.keys :=
  keys_withdrawn c c.classes ([], r)

/-- Each class that somebody with the id stands for is released when it is met first. -/
theorem withdrawn_once (c : Consumer ω) (messages : List MessageClass) (left : List String × Registry ω) :
    (messages.foldl (withdraw c) left).1 =
      left.1 ++ ((messages.map (·.name)).filter fun type => left.2.Stands c.id type).eraseDups := by
  induction messages generalizing left with
  | nil => simp
  | cons message rest ih =>
      rw [List.foldl_cons, ih, List.map_cons]
      simp only [stands_withdraw]
      obtain ⟨stands, here⟩ | ⟨absent, here⟩ := withdraw_cases c left message
      · have others : ∀ names : List String,
            names.filter (fun type => decide (message.name ≠ type ∧ left.2.Stands c.id type)) =
              (names.filter fun type => left.2.Stands c.id type).filter fun type => !type == message.name := by
          intro names
          rw [List.filter_filter]
          refine List.filter_congr fun type _ => ?_
          by_cases same : type = message.name
          · simp [same]
          · simp [same, Ne.symm same]
        rw [List.filter_cons_of_pos (by simpa using stands), List.eraseDups_cons, here, List.append_assoc, others]
        rfl
      · have nothing : ∀ type, (message.name ≠ type ∧ left.2.Stands c.id type) ↔ left.2.Stands c.id type := by
          refine fun type => ⟨And.right, fun stands => ⟨?_, stands⟩⟩
          rintro rfl
          exact absent stands
        rw [List.filter_cons_of_neg (by simpa using absent), here]
        simp only [nothing]

theorem released_registered (registered : Registry.register c r = (.ok (), after)) :
    (after.unregister c).1 = (c.classes.map (·.name)).eraseDups := by
  have stands : ∀ type ∈ c.classes.map (·.name), after.Stands c.id type := by
    intro type declared
    refine ⟨c, ?_, rfl⟩
    rw [(register_apply registered).2.2]
    exact List.mem_append_right _ (Consumer.mem_entries.mpr ⟨declares_iff.mpr declared, rfl⟩)
  have released : (after.unregister c).1 = _ := withdrawn_once c c.classes ([], after)
  rw [released, List.nil_append, List.filter_eq_self.mpr fun type declared => decide_eq_true (stands type declared)]

/-- Nobody who was there before goes with the one who has just come. -/
theorem consumers_undone (registered : Registry.register c r = (.ok (), after)) (type : String) :
    (after.unregister c).2.consumers type = r.consumers type := by
  obtain ⟨free, -, standing⟩ := register_apply registered
  rw [(after.unregister_apply c type).2, standing]
  by_cases declared : 0 < c.declarations type
  · have others : ∀ owner ∈ r.consumers type, owner.id ≠ c.id := fun owner owned =>
      (not_excluded free owned declared).2
    have own : (c.entries type).filter (fun other => other.id ≠ c.id) = [] := by
      simp [Consumer.entries]
    rw [if_pos declared, List.filter_append, own, List.append_nil]
    exact List.filter_eq_self.mpr fun owner owned => decide_eq_true (others owner owned)
  · have absent : c.entries type = [] := by simpa [Consumer.entries] using declared
    rw [if_neg declared, absent, List.append_nil]

theorem class?_undone (formed : r.Formed) (registered : Registry.register c r = (.ok (), after)) (type : String) :
    (after.unregister c).2.class? type = r.class? type := by
  have same := consumers_undone registered type
  have left : (after.unregister c).2.Formed := (formed.register registered).unregister c
  by_cases staffed : r.consumers type = []
  · rw [formed.class?_eq_none staffed, left.class?_eq_none (same.trans staffed)]
  · obtain ⟨message, classed⟩ := Option.isSome_iff_exists.mp
      ((formed.agrees type).classed.mpr ((formed.agrees type).staffed.mp staffed))
    rw [class?_unregister (same ▸ staffed), class?_register registered, classed, Option.some_or]

theorem Formed.unregister_registered (formed : r.Formed) (registered : Registry.register c r = (.ok (), after)) :
    (after.unregister c).2 = r := by
  have found : ∀ type, (after.unregister c).2.find? type = r.find? type := by
    intro type
    rw [find?_eq, find?_eq r, class?_undone formed registered, consumers_undone registered]
  have members : ∀ type, type ∈ (after.unregister c).2.subscriptions.keys ↔ type ∈ r.subscriptions.keys := by
    intro type
    rw [Table.mem_keys, Table.mem_keys]
    exact iff_of_eq (congrArg (fun subscription => subscription.isSome = true) (found type))
  have keys : (after.unregister c).2.subscriptions.keys = r.subscriptions.keys := by
    obtain ⟨added, extended⟩ := keys_register registered
    have distinct : (r.subscriptions.keys ++ added).Nodup := extended ▸ after.subscriptions.distinct
    -- none of the types that have come in is left, so what is left is in the part before them
    obtain ⟨old, new, kept, before, behind⟩ := List.sublist_append_iff.mp (extended ▸ keys_unregister after c)
    have none : new = [] := by
      refine List.eq_nil_iff_forall_not_mem.mpr fun type member => ?_
      have known := (members type).mp (kept ▸ List.mem_append_right old member)
      exact (List.nodup_append.mp distinct).2.2 type known type (behind.subset member) rfl
    rw [none, List.append_nil] at kept
    rw [kept]
    refine before.eq_of_length (List.Perm.length_eq ?_)
    refine (List.perm_ext_iff_of_nodup ?_ r.subscriptions.distinct).mpr fun type => ?_
    · exact kept ▸ (after.unregister c).2.subscriptions.distinct
    · rw [← kept]
      exact members type
  have table : (after.unregister c).2.subscriptions = r.subscriptions := Table.eq_of_keys keys found
  have ownership : (after.unregister c).2.ownership = r.ownership :=
    (after.unregister_apply c "").1.trans (register_apply registered).2.1
  exact congrArg₂ Registry.mk ownership table

/-- Over any registrations and removals, a removal right after a registration returns each type that the
consumer declares once, in the order in which it declares them, and leaves the registry as it was: the
class and the consumers of every type, and their order. -/
theorem registration_undone (ownership : Ownership) (revisions : List (Revision ω)) (c : Consumer ω)
    (registered : register c ((Registry.empty ownership).revisedBy revisions) = (.ok (), after)) :
    after.unregister c =
      ((c.classes.map (·.name)).eraseDups, (Registry.empty ownership).revisedBy revisions) := by
  have formed : ((Registry.empty ownership).revisedBy revisions).Formed := (Formed.empty ownership).revisedBy revisions
  exact Prod.ext (released_registered registered) (formed.unregister_registered registered)

open Sample Lobby in
/-- The porter, who declares forms twice, comes to them as the second and brings in visits. When he
leaves, forms are with the first alone, and nobody has heard of visits. -/
theorem registration_undone_lobby :
    let revisions : List (Revision Unit) := [.register (.dispatcher namesake)]
    let c : Consumer Unit := .dispatcher porter
    let r := (Registry.empty .shared).revisedBy revisions
    let after := r.revised (.register c)
    register c r = (.ok (), after) ∧ r.supports "lab.Ping" = false ∧ after.supports "lab.Ping" = true ∧
      (after.consumers "lab.Form").map Consumer.id = ["strict", "porter", "porter"] ∧
      after.unregister c = (["lab.Form", "lab.Ping"], r) := by
  intro revisions c r after
  have registered : register c r = (.ok (), after) := Computation.eq_of_isOk (by decide +kernel)
  refine ⟨registered, by decide +kernel, by decide +kernel, by decide +kernel, ?_⟩
  exact registration_undone .shared revisions c registered

end Switchboard.Registry
