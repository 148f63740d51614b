import Switchboard.Proofs.Consumer.Lookups

namespace Switchboard.Registry

/-! Consumers can be registered in any order. Whether all of them can be does not depend on it, and
for each type the same consumers stand in the registry. -/

variable {ω : Type} {r after other : Registry ω} {c d : Consumer ω} {subscribers reordered : List (Consumer ω)}

/-- Nobody keeps the consumer from the types that it declares. -/
structure Admits (r : Registry ω) (c : Consumer ω) : Prop where
  sound : c.defect = none
  free : ∀ type, 0 < c.declarations type → ∀ owner ∈ r.consumers type, r.excludes owner c = false

/-- Where both are declared, neither consumer keeps the other away. -/
def Compatible (r : Registry ω) (c d : Consumer ω) : Prop :=
  ∀ type, 0 < c.declarations type → 0 < d.declarations type → r.excludes c d = false

theorem excludes_comm (r : Registry ω) (c d : Consumer ω) : r.excludes c d = r.excludes d c := by
  simp only [excludes, ne_eq, eq_comm]

theorem excludes_congr (same : after.ownership = r.ownership) : after.excludes c d = r.excludes c d := by
  simp only [excludes, same]

theorem compatible_registered (registered : register c r = (.ok (), after)) : after.Compatible = r.Compatible := by
  funext c d
  simp only [Compatible, excludes_congr (register_apply registered).2.1]

theorem Compatible.symm (compatible : r.Compatible c d) : r.Compatible d c := by
  intro type declared also
  rw [excludes_comm]
  exact compatible type also declared

theorem register_ok_iff : (∃ after, register c r = (.ok (), after)) ↔ r.Admits c := by
  have failed := register_error_iff (r := r) (c := c)
  constructor
  · intro ⟨after, registered⟩
    rw [registered] at failed
    have clear := (not_congr failed).mp (by simp)
    rw [not_or] at clear
    refine ⟨by simpa using clear.1, fun type declared owner owned => ?_⟩
    have unbarred : ¬ r.excludes owner c = true := fun barred => clear.2 ⟨type, declared, owner, owned, barred⟩
    simpa using unbarred
  · intro admitted
    rcases registered : register c r with ⟨_ | _, after⟩
    · obtain defect | ⟨type, declared, owner, owned, barred⟩ := failed.mp ⟨_, congrArg Prod.fst registered⟩
      · rw [admitted.sound] at defect
        cases defect
      · rw [admitted.free type declared owner owned] at barred
        cases barred
    · exact ⟨after, rfl⟩

/-- Whoever is registered next has to get on with the last one too. -/
theorem admits_registered (registered : register c r = (.ok (), after)) :
    after.Admits d ↔ r.Admits d ∧ r.Compatible c d := by
  obtain ⟨-, kept, standing⟩ := register_apply registered
  constructor
  · intro ⟨sound, free⟩
    have bars : ∀ type, 0 < d.declarations type → ∀ owner ∈ r.consumers type ++ c.entries type,
        r.excludes owner d = false := by
      intro type declared owner owned
      rw [← excludes_congr kept]
      rw [← standing] at owned
      exact free type declared owner owned
    refine ⟨⟨sound, fun type declared owner owned => ?_⟩, fun type first declared => ?_⟩
    · exact bars type declared owner (List.mem_append_left _ owned)
    · exact bars type declared c (List.mem_append_right _ (Consumer.mem_entries.mpr ⟨first, rfl⟩))
  · intro ⟨⟨sound, free⟩, compatible⟩
    refine ⟨sound, fun type declared owner owned => ?_⟩
    rw [excludes_congr kept]
    rw [standing, List.mem_append, Consumer.mem_entries] at owned
    obtain before | ⟨first, rfl⟩ := owned
    · exact free type declared owner before
    · exact compatible type first declared

theorem registrations_ok_iff : (∃ after, subscribers.forM register r = (.ok (), after)) ↔
    (∀ c ∈ subscribers, r.Admits c) ∧ subscribers.Pairwise r.Compatible := by
  induction subscribers generalizing r with
  | nil => exact iff_of_true ⟨r, rfl⟩ (by simp)
  | cons c rest ih =>
      rw [List.forall_mem_cons, List.pairwise_cons]
      constructor
      · rintro ⟨after, registrations⟩
        obtain ⟨next, registered, others⟩ := Computation.forM_cons_ok_iff.mp registrations
        obtain ⟨admitted, compatible⟩ := ih.mp ⟨after, others⟩
        have both := fun d member => (admits_registered registered).mp (admitted d member)
        rw [compatible_registered registered] at compatible
        exact ⟨⟨register_ok_iff.mp ⟨next, registered⟩, fun d member => (both d member).1⟩,
          fun d member => (both d member).2, compatible⟩
      · rintro ⟨⟨first, admitted⟩, together, compatible⟩
        obtain ⟨next, registered⟩ := register_ok_iff.mpr first
        rw [← compatible_registered registered] at compatible
        obtain ⟨after, others⟩ := ih.mpr ⟨fun d member => (admits_registered registered).mpr
          ⟨admitted d member, together d member⟩, compatible⟩
        exact ⟨after, Computation.forM_cons_ok_iff.mpr ⟨next, registered, others⟩⟩

theorem registrations_apply (registered : subscribers.forM register r = (.ok (), after)) (type : String) :
    after.consumers type = r.consumers type ++ subscribers.flatMap (·.entries type) := by
  induction subscribers generalizing r with
  | nil =>
      cases registered
      simp
  | cons c rest ih =>
      obtain ⟨next, first, others⟩ := Computation.forM_cons_ok_iff.mp registered
      rw [ih others, (register_apply first).2.2, List.flatMap_cons, List.append_assoc]

/-- When consumers can be registered, they can be in any other order, for the same consumers of each type. -/
theorem registrations_reordered (registered : subscribers.forM register r = (.ok (), after))
    (perm : reordered.Perm subscribers) :
    ∃ other, reordered.forM register r = (.ok (), other) ∧
      ∀ type, (other.consumers type).Perm (after.consumers type) := by
  obtain ⟨admitted, compatible⟩ := registrations_ok_iff.mp ⟨after, registered⟩
  have again : ∃ other, reordered.forM register r = (.ok (), other) := by
    refine registrations_ok_iff.mpr ⟨fun c member => admitted c (perm.subset member), ?_⟩
    exact (perm.pairwise_iff fun both => both.symm).mpr compatible
  obtain ⟨other, recorded⟩ := again
  refine ⟨other, recorded, fun type => ?_⟩
  rw [registrations_apply recorded, registrations_apply registered]
  exact (perm.flatMap_right _).append_left _

end Switchboard.Registry
