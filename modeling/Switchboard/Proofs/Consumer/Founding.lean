import Mathlib.Data.List.Induction
import Switchboard.Proofs.Consumer.Release

namespace Switchboard

/-! Which class a type has. It is the class of the consumer that brought the type in, and stays that
as long as anybody is registered for the type. -/

variable {ω : Type} {c : Consumer ω} {type : String}

/-- The first class that a consumer declares under a name. -/
def Consumer.classOf? (c : Consumer ω) (type : String) : Option MessageClass :=
  c.classes.find? fun message => message.name = type

theorem Consumer.isSome_classOf? : (c.classOf? type).isSome ↔ 0 < c.declarations type := by
  simp [classOf?, declarations, List.find?_isSome, List.countP_pos_iff]

theorem Subscription.message_without {s left : Subscription ω} {id : String} (kept : s.without id = some left) :
    left.message = s.message := by
  simp only [without] at kept
  split at kept
  next => cases kept
  next =>
    cases kept
    rfl

namespace Registry

variable {start r after : Registry ω} {founder : Consumer ω} {revision : Revision ω}
  {revisions : List (Revision ω)}

theorem class?_subscribe (r : Registry ω) (c : Consumer ω) (message : MessageClass) (type : String) :
    (r.subscribe c message).class? type =
      if message.name = type then some ((r.class? type).getD message) else r.class? type := by
  rw [class?, find?_subscribe]
  split <;> rfl

theorem class?_subscribed (r : Registry ω) (c : Consumer ω) (messages : List MessageClass) (type : String) :
    (messages.foldl (fun r message => r.subscribe c message) r).class? type =
      (r.class? type).or (messages.find? fun message => message.name = type) := by
  induction messages generalizing r with
  | nil => simp
  | cons message rest ih =>
      rw [List.foldl_cons, ih, List.find?_cons, class?_subscribe]
      by_cases same : message.name = type
      · cases r.class? type <;> simp [same]
      · simp [same]

/-- A type that is known keeps its class. -/
theorem class?_register (registered : register c r = (.ok (), after)) (type : String) :
    after.class? type = (r.class? type).or (c.classOf? type) := by
  obtain ⟨-, -, rfl⟩ := register_ok registered
  exact class?_subscribed r c c.classes type

/-- A type keeps its class as long as anybody is left. -/
theorem class?_unregister (staffed : (r.unregister c).2.consumers type ≠ []) :
    (r.unregister c).2.class? type = r.class? type := by
  have kept := find?_unregister r c type
  cases found : (r.unregister c).2.find? type with
  | none => simp [consumers, found] at staffed
  | some left =>
      rw [found] at kept
      split at kept
      next =>
        obtain ⟨s, stood, part⟩ := Option.bind_eq_some_iff.mp kept.symm
        simp [class?, found, stood, Subscription.message_without part]
      next => rw [class?, class?, found, kept]

theorem Formed.class?_eq_none (formed : r.Formed) (free : r.consumers type = []) : r.class? type = none := by
  cases found : r.find? type with
  | none => rw [class?, found, Option.map_none]
  | some s =>
      rw [consumers, found] at free
      exact absurd free (formed.known found).2

theorem ownership_revised (r : Registry ω) (revision : Revision ω) :
    (r.revised revision).ownership = r.ownership := by
  cases revision with
  | register c =>
      rcases done : register c r with ⟨_ | _, after⟩
      · rw [revised_failed done]
      · rw [revised_done done]
        exact (register_apply done).2.1
  | unregister c => exact (r.unregister_apply c "").1
  | clear => rfl

theorem ownership_revisedBy (r : Registry ω) (revisions : List (Revision ω)) :
    (r.revisedBy revisions).ownership = r.ownership := by
  induction revisions generalizing r with
  | nil => rfl
  | cons revision rest ih => exact (ih (r.revised revision)).trans (ownership_revised r revision)

theorem revisedBy_concat (r : Registry ω) (revisions : List (Revision ω)) (revision : Revision ω) :
    r.revisedBy (revisions ++ [revision]) = (r.revisedBy revisions).revised revision :=
  List.foldl_append

theorem revisedBy_registered (registered : Registry.register c (r.revisedBy revisions) = (.ok (), after))
    (later : List (Revision ω)) : r.revisedBy (revisions ++ .register c :: later) = after.revisedBy later := by
  have onward : r.revisedBy (revisions ++ .register c :: later) =
      ((r.revisedBy revisions).revised (.register c)).revisedBy later := List.foldl_append
  rw [onward, revised_done registered]

/-- The registration of the founder has brought in the type: nobody was registered for it before, and
somebody has been ever since. -/
def Founded (start : Registry ω) (revisions : List (Revision ω)) (type : String) (founder : Consumer ω) : Prop :=
  ∃ before later after, revisions = before ++ .register founder :: later ∧
    register founder (start.revisedBy before) = (.ok (), after) ∧
    (start.revisedBy before).consumers type = [] ∧
    ∀ some, some <+: later → (after.revisedBy some).consumers type ≠ []

/-- A founder stays the founder until nobody is left. -/
theorem Founded.concat (founded : start.Founded revisions type founder)
    (staffed : (start.revisedBy (revisions ++ [revision])).consumers type ≠ []) :
    start.Founded (revisions ++ [revision]) type founder := by
  obtain ⟨before, later, after, rfl, registered, free, since⟩ := founded
  refine ⟨before, later ++ [revision], after, by simp, registered, free, fun some part => ?_⟩
  obtain rfl | part := List.prefix_concat_iff.mp part
  · rwa [revisedBy_concat, revisedBy_registered registered, ← revisedBy_concat] at staffed
  · exact since some part

/-- What is known of a type by its founder. In an exclusive registry nobody joins him. -/
structure FoundedBy (start : Registry ω) (revisions : List (Revision ω)) (type : String) (founder : Consumer ω) :
    Prop where
  founded : start.Founded revisions type founder
  classed : (start.revisedBy revisions).class? type = founder.classOf? type
  alone : start.ownership = .exclusive → (start.revisedBy revisions).consumers type = founder.entries type

namespace FoundedBy

/-- A consumer that is registered for a type without any founds it. -/
theorem begun (formed : (start.revisedBy revisions).Formed)
    (registered : Registry.register c (start.revisedBy revisions) = (.ok (), after))
    (free : (start.revisedBy revisions).consumers type = []) (staffed : after.consumers type ≠ []) :
    start.FoundedBy (revisions ++ [.register c]) type c := by
  have reached : start.revisedBy (revisions ++ [.register c]) = after := revisedBy_registered registered []
  constructor
  · refine ⟨revisions, [], after, rfl, registered, free, fun some part => ?_⟩
    rwa [List.prefix_nil.mp part]
  · rw [reached, class?_register registered, formed.class?_eq_none free, Option.none_or]
  · intro exclusive
    rw [reached, (register_apply registered).2.2, free, List.nil_append]

variable (known : start.FoundedBy revisions type founder)
include known

/-- Whoever is registered later leaves the class as it is. -/
theorem joined (formed : (start.revisedBy revisions).Formed)
    (registered : Registry.register c (start.revisedBy revisions) = (.ok (), after))
    (staffed : (start.revisedBy revisions).consumers type ≠ []) :
    start.FoundedBy (revisions ++ [.register c]) type founder := by
  have reached : start.revisedBy (revisions ++ [.register c]) = after := revisedBy_registered registered []
  obtain ⟨free, kept, standing⟩ := register_apply registered
  constructor
  · apply known.founded.concat
    rw [reached, standing]
    exact fun nobody => staffed (List.append_eq_nil_iff.mp nobody).1
  · obtain ⟨message, classed⟩ := Option.isSome_iff_exists.mp
      ((formed.agrees type).classed.mpr ((formed.agrees type).staffed.mp staffed))
    rw [reached, class?_register registered, ← known.classed, classed, Option.some_or]
  · intro exclusive
    have absent : c.entries type = [] := by
      obtain ⟨owner, owned⟩ := List.exists_mem_of_ne_nil _ staffed
      rw [Consumer.entries, List.replicate_eq_nil_iff]
      by_contra declared
      have shared := (not_excluded free owned (Nat.pos_of_ne_zero declared)).1
      rw [ownership_revisedBy, exclusive] at shared
      cases shared
    rw [reached, standing, absent, List.append_nil]
    exact known.alone exclusive

/-- Whoever is removed, the class stays as it is as long as anybody is left. -/
theorem reduced (c : Consumer ω) (staffed : (start.revisedBy (revisions ++ [.unregister c])).consumers type ≠ []) :
    start.FoundedBy (revisions ++ [.unregister c]) type founder := by
  have reached : start.revisedBy (revisions ++ [.unregister c]) = ((start.revisedBy revisions).unregister c).2 :=
    revisedBy_concat ..
  have founded := known.founded.concat staffed
  rw [reached] at staffed
  refine ⟨founded, ?_, fun exclusive => ?_⟩
  · rw [reached, class?_unregister staffed]
    exact known.classed
  · have left := ((start.revisedBy revisions).unregister_apply c type).2
    rw [known.alone exclusive, Consumer.entries, List.filter_replicate] at left
    rw [reached]
    split at left
    next =>
      split at left
      next => exact left
      next => exact absurd left staffed
    next => exact left

end FoundedBy

/-- Whenever somebody is registered for a type, somebody has founded it. -/
theorem exists_founder (ownership : Ownership) (revisions : List (Revision ω)) (type : String)
    (staffed : ((Registry.empty ownership).revisedBy revisions).consumers type ≠ []) :
    ∃ founder, (Registry.empty ownership).FoundedBy revisions type founder := by
  induction revisions using List.reverseRecOn with
  | nil => exact absurd rfl staffed
  | append_singleton past revision ih =>
      have formed : ((Registry.empty ownership).revisedBy past).Formed := (Formed.empty ownership).revisedBy past
      cases revision with
      | register c =>
          rcases done : register c ((Registry.empty ownership).revisedBy past) with ⟨_ | _, after⟩
          · have same : (Registry.empty ownership).revisedBy (past ++ [.register c]) =
                (Registry.empty ownership).revisedBy past := by
              rw [revisedBy_concat, revised_failed done]
            obtain ⟨founder, known⟩ := ih (same ▸ staffed)
            refine ⟨founder, known.founded.concat staffed, ?_, ?_⟩
            · rw [same]
              exact known.classed
            · rw [same]
              exact known.alone
          · by_cases free : ((Registry.empty ownership).revisedBy past).consumers type = []
            · rw [revisedBy_registered done []] at staffed
              exact ⟨c, .begun formed done free staffed⟩
            · obtain ⟨founder, known⟩ := ih free
              exact ⟨founder, known.joined formed done free⟩
      | unregister c =>
          have before : ((Registry.empty ownership).revisedBy past).consumers type ≠ [] := by
            intro nobody
            apply staffed
            rw [revisedBy_concat, revised, (unregister_apply _ c type).2, nobody]
            simp
          obtain ⟨founder, known⟩ := ih before
          exact ⟨founder, known.reduced c staffed⟩
      | clear =>
          rw [revisedBy_concat] at staffed
          exact absurd rfl staffed

/-- The class of the type is one that somebody who is registered for it declares. -/
def Current (r : Registry ω) (type : String) : Prop :=
  ∃ message, r.class? type = some message ∧ ∃ owner ∈ r.consumers type, message ∈ owner.classes

/-- Over any registrations and removals, the class of a type is the one that its founder has declared.
It is a class of somebody who is registered for the type as long as the founder is, and always in an
exclusive registry; otherwise just if somebody else declares the same class. -/
theorem class_of_founder (ownership : Ownership) (revisions : List (Revision ω)) (type : String)
    (staffed : ((Registry.empty ownership).revisedBy revisions).consumers type ≠ []) :
    let r := (Registry.empty ownership).revisedBy revisions
    ∃ founder message, (Registry.empty ownership).Founded revisions type founder ∧
      founder.classOf? type = some message ∧ r.class? type = some message ∧
      (founder ∈ r.consumers type → r.Current type) ∧ (ownership = .exclusive → r.Current type) ∧
      (r.Current type ↔ ∃ owner ∈ r.consumers type, message ∈ owner.classes) := by
  intro r
  have formed : r.Formed := (Formed.empty ownership).revisedBy revisions
  obtain ⟨founder, known⟩ := exists_founder ownership revisions type staffed
  obtain ⟨message, classed⟩ := Option.isSome_iff_exists.mp
    ((formed.agrees type).classed.mpr ((formed.agrees type).staffed.mp staffed))
  have own : founder.classOf? type = some message := known.classed.symm.trans classed
  have stays : founder ∈ r.consumers type → r.Current type := fun standing =>
    ⟨message, classed, founder, standing, List.mem_of_find?_eq_some own⟩
  refine ⟨founder, message, known.founded, own, classed, stays, fun exclusive => stays ?_, ?_⟩
  · have declared : 0 < founder.declarations type := by
      rw [← Consumer.isSome_classOf?, own, Option.isSome_some]
    rw [known.alone exclusive, Consumer.mem_entries]
    exact ⟨declared, rfl⟩
  · constructor
    · rintro ⟨other, same, some⟩
      rw [classed, Option.some.injEq] at same
      rwa [same]
    · exact fun some => ⟨message, classed, some⟩

open Sample Lobby in
/-- After the strict clerk has left, the class of forms is still of his founding. -/
theorem class_of_founder_lobby :
    let revisions : List (Revision Unit) :=
      [.register (.handlers strict), .register (.handlers lenient), .unregister (.handlers strict)]
    let r := (Registry.empty .shared).revisedBy revisions
    (r.consumers "lab.Form").map Consumer.id = ["lenient"] ∧
      ∃ founder message, (Registry.empty .shared).Founded revisions "lab.Form" founder ∧
        founder.classOf? "lab.Form" = some message ∧ r.class? "lab.Form" = some message := by
  intro revisions r
  have left : (r.consumers "lab.Form").map Consumer.id = ["lenient"] := by decide +kernel
  have staffed : r.consumers "lab.Form" ≠ [] := by
    intro nobody
    rw [nobody] at left
    cases left
  obtain ⟨founder, message, founded, own, classed, -⟩ := class_of_founder .shared revisions "lab.Form" staffed
  exact ⟨left, founder, message, founded, own, classed⟩

open Sample Lobby in
/-- The strict clerk has left, but a form is still refused that everybody who is there would take. -/
theorem class_outlives_founder :
    let r : Registry Unit := (Registry.empty .shared).revisedBy
      [.register (.handlers strict), .register (.handlers lenient), .unregister (.handlers strict)]
    let form : Json := .object [("id", .string "x")]
    (r.consumers "lab.Form").map Consumer.id = ["lenient"] ∧
      (∃ message, r.class? "lab.Form" = some message ∧ message.check form ≠ []) ∧
      (∀ owner ∈ r.consumers "lab.Form", ∀ message ∈ owner.classes, message.check form = []) ∧
      ¬ r.Current "lab.Form" := by
  intro r form
  have refused : ∃ message, r.class? "lab.Form" = some message ∧ message.check form ≠ [] := by
    have checked : ((r.class? "lab.Form").map fun message => (message.check form).isEmpty) = some false := by
      decide +kernel
    obtain ⟨message, classed, some⟩ := Option.map_eq_some_iff.mp checked
    exact ⟨message, classed, by simpa using some⟩
  have taken : ∀ owner ∈ r.consumers "lab.Form", ∀ message ∈ owner.classes, message.check form = [] := by
    decide +kernel
  refine ⟨by decide +kernel, refused, taken, ?_⟩
  rintro ⟨message, classed, owner, standing, declared⟩
  obtain ⟨kept, same, some⟩ := refused
  rw [classed, Option.some.injEq] at same
  subst same
  exact some (taken owner standing message declared)

end Registry

end Switchboard
