import Switchboard.Proofs.Consumer.Registration
import Switchboard.Proofs.Table

namespace Switchboard

/-! What the lookups of a registry say together, over any registrations and removals. -/

variable {ω : Type} {c : Consumer ω} {type : String}

/-- What is left of a subscription without the consumers of an id, if anything. -/
def Subscription.without (id : String) (s : Subscription ω) : Option (Subscription ω) :=
  let left := s.consumers.filter fun c => c.id ≠ id
  if left.isEmpty then none else some { s with consumers := left }

namespace Registry

variable {r after : Registry ω}

theorem find?_subscribe (r : Registry ω) (c : Consumer ω) (message : MessageClass) (type : String) :
    (r.subscribe c message).find? type =
      if message.name = type then some ⟨(r.class? type).getD message, r.consumers type ++ [c]⟩
      else r.find? type := by
  by_cases same : message.name = type
  · subst same
    cases found : r.find? message.name <;>
      simp_all [subscribe, consumers, class?, find?, Table.find?_insert]
  · simp [subscribe, find?, Table.find?_insert, same]

theorem find?_release (r : Registry ω) (id released type : String) :
    (r.release id released).find? type =
      if released = type then (r.find? type).bind (Subscription.without id) else r.find? type := by
  cases found : r.find? released with
  | none =>
      by_cases same : released = type
      · subst same
        simp [release, found]
      · simp [release, found, same]
  | some s =>
      by_cases same : released = type
      · subst same
        rw [release]
        simp only [found, if_true, Option.bind_some, Subscription.without]
        split <;> simp [find?, Table.find?_insert, Table.find?_erase]
      · rw [release]
        simp only [found]
        split <;> simp [find?, Table.find?_insert, Table.find?_erase, same]

/-- The types are those with a consumer. All consumers of a type are of one category, and each
declares it. -/
structure Formed (r : Registry ω) : Prop where
  known : ∀ {type s}, r.find? type = some s → s.message.name = type ∧ s.consumers ≠ []
  declared : ∀ {type}, ∀ c ∈ r.consumers type, 0 < c.declarations type
  alike : ∀ {type}, ∀ c ∈ r.consumers type, ∀ other ∈ r.consumers type, c.category = other.category

theorem types_ascending (r : Registry ω) : r.types.Pairwise (· < ·) := by
  have sorted : r.types.Pairwise fun first second => decide (first ≤ second) = true := by
    apply List.pairwise_mergeSort
    · intro first second third before after
      simp only [decide_eq_true_eq] at *
      exact String.le_trans before after
    · intro first second
      simpa using String.le_total first second
  have distinct : r.types.Nodup := (List.mergeSort_perm _ _).nodup_iff.mpr r.subscriptions.distinct
  exact (sorted.and distinct).imp fun ⟨ordered, different⟩ =>
    Std.lt_of_le_of_ne (of_decide_eq_true ordered) different

theorem mem_types : type ∈ r.types ↔ r.supports type = true := by
  rw [types, List.mem_mergeSort, Table.mem_keys]
  rfl

/-- A registration fails for a fault of the consumer itself, or because someone keeps it from a
type that it declares. -/
theorem register_error_iff : (∃ error, (register c r).1 = .error error) ↔
    c.defect.isSome ∨ ∃ type, 0 < c.declarations type ∧ ∃ owner ∈ r.consumers type, r.excludes owner c := by
  have conflict : (r.conflict? c).isSome ↔
      ∃ type, 0 < c.declarations type ∧ ∃ owner ∈ r.consumers type, r.excludes owner c := by
    simp only [conflict?, obstacle?, List.isSome_findSome?, List.any_eq_true, Option.isSome_map, List.find?_isSome,
      Consumer.declarations, List.countP_pos_iff, decide_eq_true_eq]
    constructor
    · intro found
      obtain ⟨message, among, owner⟩ := found
      exact ⟨message.name, ⟨message, among, rfl⟩, owner⟩
    · intro found
      obtain ⟨_, ⟨message, among, rfl⟩, owner⟩ := found
      exact ⟨message, among, owner⟩
  rw [← conflict]
  obtain ⟨error, cause, failed⟩ | ⟨sound, free, done⟩ := register_cases r c
  · refine iff_of_true ⟨error, congrArg Prod.fst failed⟩ ?_
    cases defect : c.defect <;> simp_all
  · rw [sound, free, done]
    simp

namespace Formed

theorem empty (ownership : Ownership) : (Registry.empty (ω := ω) ownership).Formed := by
  constructor <;> simp [Registry.empty, find?, consumers]

variable (formed : r.Formed)
include formed

theorem supports_iff : r.supports type = true ↔ r.consumers type ≠ [] := by
  cases found : r.find? type with
  | none => simp [supports, consumers, found]
  | some s => simp [supports, consumers, found, (formed.known found).2]

theorem subscribe {message : MessageClass} (declares : 0 < c.declarations message.name)
    (admitted : ∀ owner ∈ r.consumers message.name, owner.category = c.category) :
    (r.subscribe c message).Formed := by
  constructor
  · intro type s found
    rw [find?_subscribe] at found
    split at found
    case isTrue same =>
      cases found
      cases stood : r.find? type with
      | none => simp [class?, stood, same]
      | some s => simp [class?, stood, (formed.known stood).1]
    case isFalse => exact formed.known found
  · intro type owner standing
    rcases mem_consumers_subscribe.mp standing with stood | ⟨rfl, rfl⟩
    · exact formed.declared owner stood
    · exact declares
  · intro type owner standing other beside
    rcases mem_consumers_subscribe.mp standing with stood | ⟨rfl, rfl⟩ <;>
      rcases mem_consumers_subscribe.mp beside with lay | ⟨named, rfl⟩
    · exact formed.alike owner stood other lay
    · subst named
      exact admitted owner stood
    · exact (admitted other lay).symm
    · rfl

theorem subscribed {messages : List MessageClass} (declares : ∀ message ∈ messages, 0 < c.declarations message.name)
    (admitted : ∀ message ∈ messages, ∀ owner ∈ r.consumers message.name, owner.category = c.category) :
    (messages.foldl (fun r message => r.subscribe c message) r).Formed := by
  induction messages generalizing r with
  | nil => exact formed
  | cons message rest ih =>
      obtain ⟨first, others⟩ := List.forall_mem_cons.mp declares
      obtain ⟨fits, fit⟩ := List.forall_mem_cons.mp admitted
      apply ih (formed.subscribe first fits) others
      intro later among owner standing
      rcases mem_consumers_subscribe.mp standing with stood | ⟨-, rfl⟩
      · exact fit later among owner stood
      · rfl

theorem register (registered : Registry.register c r = (.ok (), after)) : after.Formed := by
  have declares : ∀ message ∈ c.classes, 0 < c.declarations message.name := by
    intro message among
    exact List.countP_pos_iff.mpr ⟨message, among, decide_eq_true rfl⟩
  obtain ⟨-, free, rfl⟩ := register_ok registered
  apply formed.subscribed declares
  intro message among owner standing
  exact category_of_free free standing (declares message among)

theorem release (id released : String) : (r.release id released).Formed := by
  have fewer : ∀ {type}, ∀ owner ∈ (r.release id released).consumers type, owner ∈ r.consumers type := by
    intro type owner standing
    rw [consumers_release] at standing
    split at standing
    · exact (List.mem_filter.mp standing).1
    · exact standing
  constructor
  · intro type s found
    rw [find?_release] at found
    split at found
    case isTrue =>
      obtain ⟨old, stood, kept⟩ := Option.bind_eq_some_iff.mp found
      simp only [Subscription.without] at kept
      split at kept
      case isTrue => cases kept
      case isFalse some =>
        cases kept
        exact ⟨(formed.known stood).1, by simpa using some⟩
    case isFalse => exact formed.known found
  · intro type owner standing
    exact formed.declared owner (fewer owner standing)
  · intro type owner standing other beside
    exact formed.alike owner (fewer owner standing) other (fewer other beside)

omit formed in
theorem withdrawn (messages : List MessageClass) (left : List String × Registry ω) (formed : left.2.Formed) :
    (messages.foldl (withdraw c) left).2.Formed := by
  induction messages generalizing left with
  | nil => exact formed
  | cons message rest ih =>
      apply ih
      unfold withdraw
      split
      · exact formed.release c.id message.name
      · exact formed

theorem unregister (c : Consumer ω) : (r.unregister c).2.Formed :=
  withdrawn c.classes ([], r) formed

omit formed in
theorem clear (r : Registry ω) : r.clear.Formed := by
  constructor <;> simp [Registry.clear, find?, consumers]

end Formed

inductive Revision (ω : Type) where
  | register (c : Consumer ω)
  | unregister (c : Consumer ω)
  | clear

def revised (r : Registry ω) : Revision ω → Registry ω
  | .register c => (register c r).2
  | .unregister c => (r.unregister c).2
  | .clear => r.clear

def revisedBy (r : Registry ω) (revisions : List (Revision ω)) : Registry ω := revisions.foldl revised r

theorem revised_failed {error : RegistrationError} (failed : register c r = (.error error, after)) :
    r.revised (.register c) = r :=
  (congrArg Prod.snd failed).trans (register_failed failed)

theorem revised_done (registered : register c r = (.ok (), after)) : r.revised (.register c) = after :=
  congrArg Prod.snd registered

namespace Formed

theorem revised (formed : r.Formed) (revision : Revision ω) : (r.revised revision).Formed := by
  cases revision with
  | register c =>
      rcases done : Registry.register c r with ⟨_ | _, after⟩
      · rwa [revised_failed done]
      · rw [revised_done done]
        exact formed.register done
  | unregister c => exact formed.unregister c
  | clear => exact clear r

theorem revisedBy (formed : r.Formed) (revisions : List (Revision ω)) : (r.revisedBy revisions).Formed := by
  induction revisions generalizing r with
  | nil => exact formed
  | cons revision rest ih => exact ih (formed.revised revision)

end Formed

/-- All lookups say the same of a type. -/
structure Agrees (r : Registry ω) (type : String) : Prop where
  listed : type ∈ r.types ↔ r.supports type = true
  classed : (r.class? type).isSome ↔ r.supports type = true
  staffed : r.consumers type ≠ [] ↔ r.supports type = true
  headed : (r.consumer? type).isSome ↔ r.supports type = true
  head : r.consumer? type = (r.consumers type).head?
  named : ∀ message, r.class? type = some message → message.name = type

theorem Formed.agrees (formed : r.Formed) (type : String) : r.Agrees type where
  listed := mem_types
  classed := by simp [class?, supports]
  staffed := formed.supports_iff.symm
  headed := by rw [consumer?, List.isSome_head?, formed.supports_iff]
  head := rfl
  named := by
    intro message known
    obtain ⟨s, found, rfl⟩ := Option.map_eq_some_iff.mp known
    exact (formed.known found).1

/-- Over any registrations and removals, the consumers of a type are of one category and declare
it, and all lookups agree. A registration enters every declared type, or, if it is in somebody's
way, none. -/
theorem lookups_agree (ownership : Ownership) (revisions : List (Revision ω)) :
    let r := (Registry.empty ownership).revisedBy revisions
    (∀ type, ∀ c ∈ r.consumers type, 0 < c.declarations type ∧
      ∀ other ∈ r.consumers type, c.category = other.category) ∧
    (∀ type, r.Agrees type) ∧ r.types.Pairwise (· < ·) ∧
    ∀ c, ((∃ error, (register c r).1 = .error error) ↔ c.defect.isSome ∨
        ∃ type, 0 < c.declarations type ∧ ∃ owner ∈ r.consumers type, r.excludes owner c) ∧
      (∀ error after, register c r = (.error error, after) → after = r) ∧
      ∀ after, register c r = (.ok (), after) → ∀ type, after.consumers type = r.consumers type ++ c.entries type := by
  intro r
  have formed : r.Formed := (Formed.empty ownership).revisedBy revisions
  exact ⟨fun type c standing => ⟨formed.declared c standing, formed.alike c standing⟩, formed.agrees,
    types_ascending r, fun c => ⟨register_error_iff, fun error after => register_failed, fun after registered =>
      (register_apply registered).2.2⟩⟩

end Registry

end Switchboard
