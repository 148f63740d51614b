import Switchboard.Proofs.Consumer.Lookups
import Switchboard.Proofs.Sample.Lobby

namespace Switchboard

/-! What a removal takes from a registry: from every type that the consumer declares, whoever has
its id. -/

variable {ω : Type}

/-- What counts as the same consumer: one of its category with its id. -/
def Consumer.isTwin (c owner : Consumer ω) : Bool := owner.category = c.category ∧ owner.id = c.id

namespace Registry

variable {r : Registry ω} {c : Consumer ω} {type : String}

/-- Somebody with that id is registered for the type. -/
def Stands (r : Registry ω) (id type : String) : Prop := ∃ owner ∈ r.consumers type, owner.id = id

instance decidableStands (r : Registry ω) (id type : String) : Decidable (r.Stands id type) :=
  inferInstanceAs (Decidable (∃ owner ∈ r.consumers type, owner.id = id))

theorem stands_iff {id : String} :
    r.Stands id type ↔ (r.consumers type).any (fun owner => owner.id = id) = true := by
  simp [Stands]

theorem stands_release {id released : String} :
    (r.release id released).Stands id type ↔ released ≠ type ∧ r.Stands id type := by
  unfold Stands
  rw [consumers_release]
  by_cases same : released = type
  · simp [same]
  · simp [same]

/-- A class is released if somebody with the id stands there, and passed over if nobody does. Either
way nobody with the id is left. -/
theorem withdraw_cases (c : Consumer ω) (left : List String × Registry ω) (message : MessageClass) :
    (left.2.Stands c.id message.name ∧
        withdraw c left message = (left.1 ++ [message.name], left.2.release c.id message.name)) ∨
      (¬ left.2.Stands c.id message.name ∧ withdraw c left message = left) := by
  by_cases stands : left.2.Stands c.id message.name
  · exact .inl ⟨stands, if_pos (stands_iff.mp stands)⟩
  · exact .inr ⟨stands, if_neg fun owned => stands (stands_iff.mpr owned)⟩

theorem stands_withdraw {left : List String × Registry ω} {message : MessageClass} :
    (withdraw c left message).2.Stands c.id type ↔ message.name ≠ type ∧ left.2.Stands c.id type := by
  obtain ⟨-, here⟩ | ⟨absent, here⟩ := withdraw_cases c left message
  · rw [here]
    exact stands_release
  · rw [here]
    refine ⟨fun stands => ⟨?_, stands⟩, fun both => both.2⟩
    rintro rfl
    exact absent stands

theorem find?_withdraw (c : Consumer ω) (left : List String × Registry ω) (message : MessageClass) (type : String) :
    (withdraw c left message).2.find? type =
      if message.name = type ∧ left.2.Stands c.id type then (left.2.find? type).bind (Subscription.without c.id)
      else left.2.find? type := by
  obtain ⟨stands, here⟩ | ⟨absent, here⟩ := withdraw_cases c left message
  · rw [here, find?_release]
    by_cases same : message.name = type
    · rw [if_pos same, if_pos ⟨same, same ▸ stands⟩]
    · rw [if_neg same, if_neg fun both => same both.1]
  · rw [here, if_neg]
    rintro ⟨rfl, stands⟩
    exact absent stands

/-- Of the classes that are gone through, those are released, each once, for which somebody with the
id stands. -/
theorem withdrawn_names (c : Consumer ω) (messages : List MessageClass) (left : List String × Registry ω) :
    ∃ released, (messages.foldl (withdraw c) left).1 = left.1 ++ released ∧
      released.Sublist (messages.map (·.name)) ∧ released.Nodup ∧
      ∀ type, type ∈ released ↔ type ∈ messages.map (·.name) ∧ left.2.Stands c.id type := by
  induction messages generalizing left with
  | nil => exact ⟨[], by simp⟩
  | cons message rest ih =>
      obtain ⟨released, done, sub, once, members⟩ := ih (withdraw c left message)
      simp only [stands_withdraw] at members
      rw [List.foldl_cons, done]
      obtain ⟨stands, here⟩ | ⟨absent, here⟩ := withdraw_cases c left message
      · have gone : message.name ∉ released := fun again => ((members _).mp again).2.1 rfl
        refine ⟨message.name :: released, by rw [here, List.append_assoc]; rfl, sub.cons_cons _,
          List.nodup_cons.mpr ⟨gone, once⟩, fun type => ?_⟩
        rw [List.mem_cons, members, List.map_cons, List.mem_cons]
        by_cases same : type = message.name
        · simp [same, stands]
        · simp [same, Ne.symm same]
      · refine ⟨released, by rw [here], sub.cons _, once, fun type => ?_⟩
        rw [members, List.map_cons, List.mem_cons]
        by_cases same : type = message.name
        · simp [same, absent]
        · simp [same, Ne.symm same]

theorem find?_withdrawn (c : Consumer ω) (messages : List MessageClass) (left : List String × Registry ω)
    (type : String) :
    (messages.foldl (withdraw c) left).2.find? type =
      if type ∈ messages.map (·.name) ∧ left.2.Stands c.id type then
        (left.2.find? type).bind (Subscription.without c.id)
      else left.2.find? type := by
  induction messages generalizing left with
  | nil => simp
  | cons message rest ih =>
      rw [List.foldl_cons, ih, find?_withdraw]
      simp only [stands_withdraw, List.map_cons, List.mem_cons]
      by_cases same : type = message.name
      · simp [same]
      · simp [same, Ne.symm same]

theorem declares_iff : 0 < c.declarations type ↔ type ∈ c.classes.map (·.name) := by
  simp [Consumer.declarations, List.countP_pos_iff]

/-- The types are released, each once, that the consumer declares and somebody with its id stands for. -/
theorem unregister_names (r : Registry ω) (c : Consumer ω) :
    (r.unregister c).1.Sublist (c.classes.map (·.name)) ∧ (r.unregister c).1.Nodup ∧
      ∀ type, type ∈ (r.unregister c).1 ↔ 0 < c.declarations type ∧ r.Stands c.id type := by
  obtain ⟨released, done, sub, once, members⟩ := withdrawn_names c c.classes ([], r)
  have same : (r.unregister c).1 = released := done
  rw [same]
  exact ⟨sub, once, fun type => (members type).trans (and_congr_left' declares_iff.symm)⟩

theorem find?_unregister (r : Registry ω) (c : Consumer ω) (type : String) :
    (r.unregister c).2.find? type =
      if 0 < c.declarations type ∧ r.Stands c.id type then (r.find? type).bind (Subscription.without c.id)
      else r.find? type := by
  simp only [declares_iff]
  exact find?_withdrawn c c.classes ([], r) type

/-- From a type the consumer itself is taken, and nobody else. -/
structure ReleasesOwn (r : Registry ω) (c : Consumer ω) (type : String) : Prop where
  others : ((r.unregister c).2.consumers type).filter (!c.isTwin ·) = (r.consumers type).filter (!c.isTwin ·)
  skipped : (∀ owner ∈ r.consumers type, c.isTwin owner = false) →
    (r.unregister c).2.find? type = r.find? type
  released : type ∈ (r.unregister c).1 ↔ 0 < c.declarations type ∧
    ∃ owner ∈ r.consumers type, c.isTwin owner ∧ owner ∉ (r.unregister c).2.consumers type

/-- Somebody of the other category with its id stands for a type that the consumer declares. -/
def Confuses (r : Registry ω) (c : Consumer ω) (type : String) : Prop :=
  0 < c.declarations type ∧ ∃ owner ∈ r.consumers type, owner.id = c.id ∧ owner.category ≠ c.category

theorem releasesOwn_iff : r.ReleasesOwn c type ↔ ¬ r.Confuses c type := by
  have left := (r.unregister_apply c type).2
  constructor
  · rintro own ⟨declared, owner, standing, same, different⟩
    have stays : owner ∈ (r.consumers type).filter (!c.isTwin ·) := by
      simp [standing, Consumer.isTwin, different]
    rw [← own.others, left, if_pos declared] at stays
    simp [same] at stays
  · intro clear
    have told : 0 < c.declarations type → ∀ owner ∈ r.consumers type, (owner.id = c.id ↔ c.isTwin owner) := by
      intro declared owner standing
      simp only [Consumer.isTwin, decide_eq_true_eq]
      refine ⟨fun same => ⟨?_, same⟩, And.right⟩
      by_contra different
      exact clear ⟨declared, owner, standing, same, different⟩
    constructor
    · rw [left]
      split
      next declared =>
        rw [List.filter_filter]
        refine List.filter_congr fun owner standing => ?_
        by_cases twin : c.isTwin owner <;> simp [twin, told declared owner standing]
      next => rfl
    · intro nobody
      rw [find?_unregister, if_neg]
      rintro ⟨declared, owner, standing, same⟩
      exact absurd ((told declared owner standing).mp same) (by simp [nobody owner standing])
    · rw [(unregister_names r c).2.2]
      refine and_congr_right fun declared => ?_
      rw [left, if_pos declared]
      constructor
      · rintro ⟨owner, standing, same⟩
        exact ⟨owner, standing, (told declared owner standing).mp same, by simp [same]⟩
      · rintro ⟨owner, standing, twin, -⟩
        exact ⟨owner, standing, (told declared owner standing).mpr twin⟩

/-- Over any registrations and removals, a removal takes the consumer itself from the types that it
declares, and nobody else, but for types where it is confused with somebody of the other category:
there it takes the one who has its id. -/
theorem released_unless_confused (ownership : Ownership) (revisions : List (Revision ω)) (c : Consumer ω) :
    let r := (Registry.empty ownership).revisedBy revisions
    (r.unregister c).1.Sublist (c.classes.map (·.name)) ∧ (r.unregister c).1.Nodup ∧
      ∀ type, (r.ReleasesOwn c type ↔ ¬ r.Confuses c type) ∧
        (r.Confuses c type → type ∈ (r.unregister c).1 ∧
          (∀ owner ∈ r.consumers type, owner.category ≠ c.category) ∧
          (r.unregister c).2.consumers type = (r.consumers type).filter fun owner => owner.id ≠ c.id) := by
  intro r
  have formed : r.Formed := (Formed.empty ownership).revisedBy revisions
  obtain ⟨sub, once, members⟩ := unregister_names r c
  refine ⟨sub, once, fun type => ⟨releasesOwn_iff, ?_⟩⟩
  rintro ⟨declared, owner, standing, same, different⟩
  refine ⟨(members type).mpr ⟨declared, owner, standing, same⟩, ?_, ?_⟩
  · intro other beside
    rw [← formed.alike owner standing other beside]
    exact different
  · rw [(r.unregister_apply c type).2, if_pos declared]

open Sample Lobby in
/-- A set of handlers that nobody has registered takes the forms from a dispatcher of the same id. -/
theorem namesake_released :
    let r : Registry Unit := (Registry.empty .exclusive).revisedBy [.register (.dispatcher namesake)]
    let c : Consumer Unit := .handlers strict
    (r.consumers "lab.Form").map (fun owner => (owner.category, owner.id)) = [(.dispatcher, "strict")] ∧
      ¬ r.ReleasesOwn c "lab.Form" ∧
      (r.unregister c).1 = ["lab.Form"] ∧ (r.unregister c).2.consumers "lab.Form" = [] := by
  intro r c
  have confused : r.Confuses c "lab.Form" := by
    unfold Confuses
    decide +kernel
  refine ⟨by decide +kernel, fun own => releasesOwn_iff.mp own confused, by decide +kernel, ?_⟩
  rw [← List.isEmpty_iff]
  decide +kernel

end Registry

end Switchboard
