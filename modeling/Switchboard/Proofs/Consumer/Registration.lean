import Mathlib.Data.List.Nodup
import Switchboard.Consumer.Registry
import Switchboard.Proofs.Computation

namespace Switchboard

/-! Who stands in a registry for a type. A registry keeps a list of entries; behind them are
owners, each of which has as many entries as it declares the type. -/

variable {ω : Type}

namespace Consumer

/-- How often a consumer declares a type. -/
def declarations (c : Consumer ω) (type : String) : Nat :=
  c.classes.countP fun message => message.name = type

def entries (c : Consumer ω) (type : String) : List (Consumer ω) :=
  List.replicate (c.declarations type) c

theorem handlers_declarations (set : HandlerSet ω) (type : String) :
    (handlers set).declarations type ≤ 1 := by
  have sorted : set.classes.Perm (set.methods.map (·.message)) := List.mergeSort_perm _ _
  have once := List.nodup_iff_count_le_one.mp set.unique type
  have counted : (set.methods.map fun m => m.message.name).count type =
      set.methods.countP fun m => m.message.name = type := by
    rw [List.count, List.countP_map]
    rfl
  change set.classes.countP _ ≤ 1
  rw [sorted.countP_eq, List.countP_map]
  rw [counted] at once
  exact once

theorem mem_entries {c other : Consumer ω} {type : String} :
    other ∈ c.entries type ↔ 0 < c.declarations type ∧ other = c := by
  rw [entries, List.mem_replicate, Nat.pos_iff_ne_zero]

theorem filter_entries (owners : List (Consumer ω)) (type id : String) :
    (owners.flatMap (·.entries type)).filter (fun other => other.id ≠ id) =
      (owners.filter fun owner => owner.id ≠ id).flatMap (·.entries type) := by
  induction owners with
  | nil => rfl
  | cons owner rest ih =>
      rw [List.flatMap_cons, List.filter_append, ih, entries, List.filter_replicate]
      by_cases same : owner.id = id
      · simp [same]
      · simp [same, entries]

end Consumer

namespace Registry

variable {r after : Registry ω} {c : Consumer ω} {owners : List (Consumer ω)} {type : String}

theorem consumers_subscribe (r : Registry ω) (c : Consumer ω) (message : MessageClass) (type : String) :
    (r.subscribe c message).consumers type =
      r.consumers type ++ if message.name = type then [c] else [] := by
  by_cases same : message.name = type
  · subst same
    cases found : r.find? message.name <;>
      simp_all [subscribe, consumers, find?, Table.find?_insert]
  · simp [subscribe, consumers, find?, Table.find?_insert, same]

theorem mem_consumers_subscribe {owner : Consumer ω} {message : MessageClass} :
    owner ∈ (r.subscribe c message).consumers type ↔
      owner ∈ r.consumers type ∨ message.name = type ∧ owner = c := by
  rw [consumers_subscribe]
  by_cases same : message.name = type <;> simp [same]

theorem consumers_subscribed (r : Registry ω) (c : Consumer ω) (messages : List MessageClass) (type : String) :
    (messages.foldl (fun r message => r.subscribe c message) r).consumers type =
      r.consumers type ++ List.replicate (messages.countP fun message => message.name = type) c := by
  induction messages generalizing r with
  | nil => simp
  | cons message rest ih =>
      rw [List.foldl_cons, ih, consumers_subscribe, List.append_assoc, List.countP_cons]
      by_cases same : message.name = type
      · simp [same, List.replicate_succ]
      · simp [same]

theorem ownership_subscribed (r : Registry ω) (c : Consumer ω) (messages : List MessageClass) :
    (messages.foldl (fun r message => r.subscribe c message) r).ownership = r.ownership := by
  induction messages generalizing r with
  | nil => rfl
  | cons message rest ih => exact ih (r.subscribe c message)

theorem consumers_release (r : Registry ω) (id released type : String) :
    (r.release id released).consumers type =
      if released = type then (r.consumers type).filter fun c => c.id ≠ id else r.consumers type := by
  cases found : r.find? released with
  | none =>
      by_cases same : released = type
      · subst same
        simp [release, consumers, found]
      · simp [release, found, same]
  | some subscription =>
      have opened : (r.release id released).subscriptions =
          if (subscription.consumers.filter fun c => c.id ≠ id).isEmpty then r.subscriptions.erase released
          else r.subscriptions.insert released
            { subscription with consumers := subscription.consumers.filter fun c => c.id ≠ id } := by
        simp only [release, found]
      rw [find?] at found
      simp only [consumers, find?, opened]
      by_cases same : released = type
      · subst same
        split
        · have nobody := List.isEmpty_iff.mp ‹_›
          simp only [Table.find?_erase, found, reduceIte]
          exact nobody.symm
        · simp [Table.find?_insert, found]
      · split <;> simp [Table.find?_insert, Table.find?_erase, same]

theorem ownership_release (r : Registry ω) (id released : String) :
    (r.release id released).ownership = r.ownership := by
  cases found : r.find? released <;> simp [release, found]

/-- What is done for each class of a consumer that is removed. -/
def withdraw (c : Consumer ω) (left : List String × Registry ω) (message : MessageClass) :
    List String × Registry ω :=
  if (left.2.consumers message.name).any (fun other => other.id = c.id) then
    (left.1 ++ [message.name], left.2.release c.id message.name)
  else left

theorem withdraw_apply (c : Consumer ω) (left : List String × Registry ω) (message : MessageClass)
    (type : String) :
    (withdraw c left message).2.ownership = left.2.ownership ∧
      (withdraw c left message).2.consumers type =
        if message.name = type then (left.2.consumers type).filter fun other => other.id ≠ c.id
        else left.2.consumers type := by
  unfold withdraw
  by_cases stands : (left.2.consumers message.name).any (fun other => other.id = c.id)
  · rw [if_pos stands]
    exact ⟨ownership_release .., consumers_release ..⟩
  · rw [if_neg stands]
    refine ⟨rfl, ?_⟩
    by_cases same : message.name = type
    · subst same
      rw [if_pos rfl]
      symm
      simpa using stands
    · rw [if_neg same]

theorem unregister_apply (r : Registry ω) (c : Consumer ω) (type : String) :
    (r.unregister c).2.ownership = r.ownership ∧
      (r.unregister c).2.consumers type =
        if 0 < c.declarations type then (r.consumers type).filter fun other => other.id ≠ c.id
        else r.consumers type := by
  have swept : ∀ (messages : List MessageClass) (left : List String × Registry ω),
      (messages.foldl (withdraw c) left).2.ownership = left.2.ownership ∧
        (messages.foldl (withdraw c) left).2.consumers type =
          if 0 < messages.countP (fun message => message.name = type) then
            (left.2.consumers type).filter fun other => other.id ≠ c.id
          else left.2.consumers type := by
    intro messages
    induction messages with
    | nil => simp
    | cons message rest ih =>
        intro left
        obtain ⟨kept, here⟩ := withdraw_apply c left message type
        obtain ⟨later, there⟩ := ih (withdraw c left message)
        refine ⟨later.trans kept, ?_⟩
        rw [List.foldl_cons, there, here, List.countP_cons]
        by_cases same : message.name = type <;> simp [same]
  exact swept c.classes ([], r)

/-! ## Registrations -/

/-- What keeps a consumer from a class, if anything does. -/
def obstacle? (r : Registry ω) (c : Consumer ω) (message : MessageClass) : Option RegistrationError :=
  ((r.consumers message.name).find? (r.excludes · c)).map fun owner =>
    .conflict message.name owner.id owner.category c.id c.category

/-- The first declared type that somebody keeps the consumer from, and the first who does. -/
def conflict? (r : Registry ω) (c : Consumer ω) : Option RegistrationError := c.classes.findSome? (r.obstacle? c)

theorem grant_apply (r : Registry ω) (c : Consumer ω) (message : MessageClass) :
    grant c message r = ((r.obstacle? c message).elim (.ok ()) .error, r) := by
  rw [grant, Computation.get_bind, obstacle?]
  cases (r.consumers message.name).find? (r.excludes · c) <;> rfl

variable {messages : List MessageClass} {error : RegistrationError}

theorem granted (free : messages.findSome? (r.obstacle? c) = none) : messages.forM (grant c) r = (.ok (), r) := by
  induction messages with
  | nil => rfl
  | cons message rest ih =>
      obtain ⟨here, later⟩ : r.obstacle? c message = none ∧ rest.findSome? (r.obstacle? c) = none := by
        simpa using free
      exact Computation.forM_cons_ok_iff.mpr ⟨r, by rw [grant_apply, here]; rfl, ih later⟩

/-- Nothing has been entered yet when a consumer is turned away. -/
theorem refused (found : messages.findSome? (r.obstacle? c) = some error) :
    messages.forM (grant c) r = (.error error, r) := by
  induction messages with
  | nil => cases found
  | cons message rest ih =>
      have first := grant_apply r c message
      rw [List.findSome?_cons] at found
      cases here : r.obstacle? c message with
      | none =>
          rw [here] at found first
          -- a type that is free changes nothing, so the next one is asked for in the same registry
          exact (Computation.bind_of_ok first).trans (ih found)
      | some other =>
          rw [here] at found first
          cases found
          exact Computation.bind_of_error first

theorem entered (r : Registry ω) (c : Consumer ω) (messages : List MessageClass) :
    (messages.forM fun message => modify (·.subscribe c message) :
      ExceptT RegistrationError (StateM (Registry ω)) Unit) r =
        (.ok (), messages.foldl (fun r message => r.subscribe c message) r) := by
  induction messages generalizing r with
  | nil => rfl
  | cons message rest ih => exact Computation.forM_cons_ok_iff.mpr ⟨_, rfl, ih _⟩

/-- All that a registration can come to. -/
theorem register_cases (r : Registry ω) (c : Consumer ω) :
    (∃ error, c.defect.or (r.conflict? c) = some error ∧ register c r = (.error error, r)) ∨
      c.defect = none ∧ r.conflict? c = none ∧
        register c r = (.ok (), c.classes.foldl (fun r message => r.subscribe c message) r) := by
  cases defect : c.defect with
  | some error =>
      refine .inl ⟨error, rfl, ?_⟩
      rw [register, defect]
      rfl
  | none =>
      cases found : r.conflict? c with
      | some error =>
          refine .inl ⟨error, rfl, ?_⟩
          rw [register, defect]
          exact Computation.bind_of_error (refused found)
      | none =>
          refine .inr ⟨rfl, rfl, ?_⟩
          rw [register, defect]
          exact (Computation.bind_of_ok (granted found)).trans (entered r c c.classes)

theorem register_failed (failed : register c r = (.error error, after)) : after = r := by
  obtain ⟨cause, -, same⟩ | ⟨-, -, done⟩ := register_cases r c
  · exact congrArg Prod.snd (failed.symm.trans same)
  · cases failed.symm.trans done

theorem register_ok (registered : register c r = (.ok (), after)) :
    c.defect = none ∧ r.conflict? c = none ∧ after = c.classes.foldl (fun r message => r.subscribe c message) r := by
  obtain ⟨error, -, failed⟩ | ⟨sound, free, done⟩ := register_cases r c
  · cases registered.symm.trans failed
  · exact ⟨sound, free, congrArg Prod.snd (registered.symm.trans done)⟩

theorem excludes_of_free (free : r.conflict? c = none) {owner : Consumer ω} (owned : owner ∈ r.consumers type)
    (declared : 0 < c.declarations type) : r.excludes owner c = false := by
  obtain ⟨message, among, named⟩ := List.countP_pos_iff.mp declared
  have nobody := List.findSome?_eq_none_iff.mp free message among
  rw [obstacle?, of_decide_eq_true named, Option.map_eq_none_iff, List.find?_eq_none] at nobody
  exact Bool.eq_false_iff.mpr (nobody owner owned)

theorem not_excluded (free : r.conflict? c = none) {owner : Consumer ω} (owned : owner ∈ r.consumers type)
    (declared : 0 < c.declarations type) : r.ownership = .shared ∧ owner.id ≠ c.id := by
  have admitted := excludes_of_free free owned declared
  cases kind : r.ownership <;> simp_all [excludes]

theorem category_of_free (free : r.conflict? c = none) {owner : Consumer ω} (owned : owner ∈ r.consumers type)
    (declared : 0 < c.declarations type) : owner.category = c.category := by
  have admitted := excludes_of_free free owned declared
  simp only [excludes, Bool.or_eq_false_iff, decide_eq_false_iff_not, not_not] at admitted
  exact admitted.1.1

/-- A consumer that is registered comes behind those that were there, and none of them excludes it. -/
theorem register_apply (registered : Registry.register c r = (.ok (), after)) :
    r.conflict? c = none ∧ after.ownership = r.ownership ∧
      ∀ type, after.consumers type = r.consumers type ++ c.entries type := by
  obtain ⟨-, free, rfl⟩ := register_ok registered
  exact ⟨free, ownership_subscribed .., consumers_subscribed r c c.classes⟩

/-- The owners of a type. -/
structure Owned (r : Registry ω) (type : String) (owners : List (Consumer ω)) : Prop where
  consumers : r.consumers type = owners.flatMap (·.entries type)
  distinct : (owners.map Consumer.id).Nodup
  declared : ∀ c ∈ owners, 0 < c.declarations type
  single : r.ownership = .exclusive → owners.length ≤ 1

namespace Owned

theorem empty (ownership : Ownership) (type : String) : (Registry.empty (ω := ω) ownership).Owned type [] :=
  ⟨rfl, List.nodup_nil, by simp, by simp⟩

theorem clear (r : Registry ω) (type : String) : r.clear.Owned type [] :=
  ⟨rfl, List.nodup_nil, by simp, by simp⟩

theorem mem_consumers (owned : r.Owned type owners) (member : c ∈ owners) : c ∈ r.consumers type := by
  rw [owned.consumers, List.mem_flatMap]
  exact ⟨c, member, Consumer.mem_entries.mpr ⟨owned.declared c member, rfl⟩⟩

theorem register (owned : r.Owned type owners) (registered : Registry.register c r = (.ok (), after)) :
    after.Owned type (if 0 < c.declarations type then owners ++ [c] else owners) := by
  obtain ⟨free, kept, standing⟩ := register_apply registered
  by_cases declared : 0 < c.declarations type
  · have others : ∀ owner ∈ owners, r.ownership = .shared ∧ owner.id ≠ c.id := by
      intro owner member
      exact not_excluded free (owned.mem_consumers member) declared
    rw [if_pos declared]
    constructor
    · rw [standing, owned.consumers, List.flatMap_append, List.flatMap_singleton]
    · rw [List.map_append, List.nodup_append]
      refine ⟨owned.distinct, by simp, ?_⟩
      intro id member other added
      obtain ⟨owner, owns, rfl⟩ := List.mem_map.mp member
      rw [List.map_singleton, List.mem_singleton] at added
      rw [added]
      exact (others owner owns).2
    · intro owner member
      rcases List.mem_append.mp member with member | member
      · exact owned.declared owner member
      · obtain rfl := List.mem_singleton.mp member
        exact declared
    · intro exclusive
      cases owners with
      | nil => simp
      | cons owner rest =>
          have shared := (others owner (by simp)).1
          rw [kept, shared] at exclusive
          cases exclusive
  · have absent : c.entries type = [] := by simpa [Consumer.entries] using declared
    rw [if_neg declared]
    refine ⟨?_, owned.distinct, owned.declared, ?_⟩
    · rw [standing, absent, List.append_nil, owned.consumers]
    · rw [kept]
      exact owned.single

theorem unregister (owned : r.Owned type owners) (c : Consumer ω) :
    (r.unregister c).2.Owned type
      (if 0 < c.declarations type then owners.filter fun other => other.id ≠ c.id else owners) := by
  obtain ⟨kept, left⟩ := r.unregister_apply c type
  rw [owned.consumers] at left
  by_cases declared : 0 < c.declarations type
  · rw [if_pos declared] at left ⊢
    have fewer : (owners.filter fun other => other.id ≠ c.id).Sublist owners := List.filter_sublist
    constructor
    · rw [left, Consumer.filter_entries]
    · exact owned.distinct.sublist (fewer.map Consumer.id)
    · intro owner member
      exact owned.declared owner (fewer.subset member)
    · intro exclusive
      rw [kept] at exclusive
      exact Nat.le_trans fewer.length_le (owned.single exclusive)
  · rw [if_neg declared] at left ⊢
    exact ⟨left, owned.distinct, owned.declared, by rw [kept]; exact owned.single⟩

/-- The entries of a type are its owners just if each of these declares it once. -/
theorem eq_owners (owned : r.Owned type owners) (once : ∀ c ∈ owners, c.declarations type ≤ 1) :
    r.consumers type = owners := by
  have single : ∀ c ∈ owners, c.entries type = [c] := by
    intro c member
    have declared := owned.declared c member
    have most := once c member
    rw [Consumer.entries, show c.declarations type = 1 by omega]
    rfl
  rw [owned.consumers, List.flatMap_congr single, List.flatMap_singleton']

theorem once_iff (owned : r.Owned type owners) :
    (∀ c ∈ owners, c.declarations type ≤ 1) ↔ ((r.consumers type).map Consumer.id).Nodup := by
  constructor
  · intro once
    rw [owned.eq_owners once]
    exact owned.distinct
  · intro distinct c member
    obtain ⟨before, after, rfl⟩ := List.append_of_mem member
    have among : (c.entries type).Sublist (r.consumers type) := by
      rw [owned.consumers, List.flatMap_append, List.flatMap_cons]
      exact (List.sublist_append_left _ _).trans (List.sublist_append_right _ _)
    have alone := distinct.sublist (among.map Consumer.id)
    rw [Consumer.entries, List.map_replicate, List.nodup_replicate] at alone
    exact alone

end Owned

/-- Every type has owners, all of them enrolled. -/
def Staffed (r : Registry ω) (enrolled : Consumer ω → Prop) : Prop :=
  ∀ type, ∃ owners, r.Owned type owners ∧ ∀ c ∈ owners, enrolled c

namespace Staffed

variable {enrolled : Consumer ω → Prop}

theorem register (staffed : r.Staffed enrolled) (admitted : enrolled c)
    (registered : Registry.register c r = (.ok (), after)) : after.Staffed enrolled := by
  intro type
  obtain ⟨owners, owned, all⟩ := staffed type
  refine ⟨_, owned.register registered, ?_⟩
  intro owner member
  split at member
  · rcases List.mem_append.mp member with member | member
    · exact all owner member
    · obtain rfl := List.mem_singleton.mp member
      exact admitted
  · exact all owner member

theorem unregister (staffed : r.Staffed enrolled) (c : Consumer ω) :
    (r.unregister c).2.Staffed enrolled := by
  intro type
  obtain ⟨owners, owned, all⟩ := staffed type
  refine ⟨_, owned.unregister c, ?_⟩
  intro owner member
  split at member
  · exact all owner (List.mem_filter.mp member).1
  · exact all owner member

end Staffed

end Registry

end Switchboard
