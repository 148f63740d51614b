import Switchboard.Proofs.Aggregate.Replay

namespace Switchboard.Root

/-! Fast-forwarding. A snapshot holds all that later events depend on, so any entity of the model can
go on from it where another one has stopped. -/

variable {σ : Type} {model : AggregateModel σ}

theorem restore_snapshot (r : Root σ) : r.restore r.snapshot = r := rfl

theorem restore_restore (r : Root σ) (first last : Snapshot σ) :
    (r.restore first).restore last = r.restore last := rfl

theorem uncommitted_restore (r : Root σ) (s : Snapshot σ) : (r.restore s).uncommitted = r.uncommitted := rfl

/-- Events can be played in two parts. Both parts leave alone what is no part of a snapshot. -/
theorem play_append_ok_iff {r ended : Root σ} {first last : List Signal} :
    play model (first ++ last) r = (.ok (), ended) ↔
      ∃ middle, play model first r = (.ok (), middle) ∧ play model last middle = (.ok (), ended) := by
  simp only [play_ok_iff, Snapshot.applyAll_append]
  cases begun : r.snapshot.applyAll model first with
  | error error => simp [Except.bind]
  | ok s => simp [Except.bind, restore_restore]

theorem play_append_error_iff {r : Root σ} {first last : List Signal} {error : AggregateError} :
    play model (first ++ last) r = (.error error, r) ↔
      play model first r = (.error error, r) ∨
        ∃ middle, play model first r = (.ok (), middle) ∧ play model last middle = (.error error, middle) := by
  simp only [play_ok_iff, play_error_iff, Snapshot.applyAll_append]
  cases begun : r.snapshot.applyAll model first with
  | error cause => simp [Except.bind]
  | ok s => simp [Except.bind]

/-- Where a history has led, unless it has failed. -/
def reached (played : Except AggregateError Unit × Root σ) : Except AggregateError (Snapshot σ) :=
  played.1.map fun () => played.2.snapshot

/-- Where events lead depends on nothing but the snapshot they start from. -/
theorem reached_play (r : Root σ) (events : List Signal) :
    reached (play model events r) = r.snapshot.applyAll model events := by
  obtain ⟨s, applied, done⟩ | ⟨error, obstructed, failed⟩ := play_cases model events r
  · rw [done, applied]
    rfl
  · rw [failed, obstructed]
    rfl

/-- A history can be cut anywhere. The second part leads to the same end, or to the same failure, from
the root that has played the first part and from any other that has been put where that one was. -/
theorem fast_forward (model : AggregateModel σ) (r : Root σ) (first last : List Signal) :
    (∀ ended, play model (first ++ last) r = (.ok (), ended) ↔
        ∃ middle, play model first r = (.ok (), middle) ∧ play model last middle = (.ok (), ended)) ∧
      (∀ error, play model (first ++ last) r = (.error error, r) ↔
        play model first r = (.error error, r) ∨
          ∃ middle, play model first r = (.ok (), middle) ∧ play model last middle = (.error error, middle)) ∧
      (∀ middle, play model first r = (.ok (), middle) → ∀ replica : Root σ,
        reached (play model last (replica.restore middle.snapshot)) = reached (play model (first ++ last) r)) ∧
      r.restore r.snapshot = r ∧ ∀ s, (r.restore s).uncommitted = r.uncommitted := by
  refine ⟨fun ended => play_append_ok_iff, fun error => play_append_error_iff, ?_, restore_snapshot r,
    uncommitted_restore r⟩
  intro middle begun replica
  obtain ⟨s, applied, rfl⟩ := play_ok_iff.mp begun
  rw [reached_play, reached_play, snapshot_restore, snapshot_restore, Snapshot.applyAll_append, applied]
  rfl

end Switchboard.Root
