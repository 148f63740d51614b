import Switchboard.Signal.Basic

namespace Switchboard.SignalContext

/-! When a delayed signal is due. A delay is counted in milliseconds in 64 bits. Of a longer one only the
rest is left, and the signal is due before the delay has passed. -/

variable {c : SignalContext} {seconds shorterSeconds : UInt64} {nanoseconds shorterNanoseconds : UInt32}

/-- How long a delay is, in nanoseconds. -/
def span (seconds : UInt64) (nanoseconds : UInt32) : Nat := seconds.toNat * 1000000000 + nanoseconds.toNat

/-- How many whole milliseconds a delay has. -/
def milliseconds (seconds : UInt64) (nanoseconds : UInt32) : Nat := span seconds nanoseconds / 1000000

/-- When a signal with this delay should be due, at the latest at the end of time. -/
def requested (c : SignalContext) (seconds : UInt64) (nanoseconds : UInt32) : Nat :=
  min (c.timestamp.toNat + milliseconds seconds nanoseconds) (UInt64.size - 1)

/-- The delay can be counted, or the end of time is reached with what is left of it. -/
def Counts (c : SignalContext) (seconds : UInt64) (nanoseconds : UInt32) : Prop :=
  milliseconds seconds nanoseconds < UInt64.size ∨
    UInt64.size - 1 ≤ c.timestamp.toNat + milliseconds seconds nanoseconds % UInt64.size

theorem toNat_deliverAt_withDelay (c : SignalContext) (seconds : UInt64) (nanoseconds : UInt32) :
    (c.withDelay seconds nanoseconds).deliverAt.toNat =
      min (c.timestamp.toNat + milliseconds seconds nanoseconds % UInt64.size) (UInt64.size - 1) := by
  have counted : seconds.toNat * 1000 + nanoseconds.toNat / 1000000 = milliseconds seconds nanoseconds := by
    unfold milliseconds span
    omega
  have held : ∀ n : Nat, (UInt64.ofNat n).toNat = n % UInt64.size := fun n => UInt64.toNat_ofNat'
  rw [withDelay, deliverAt, Option.getD_some, held, held, counted]
  refine Nat.mod_eq_of_lt ?_
  unfold UInt64.size
  omega

theorem deliverAt_le_requested (c : SignalContext) (seconds : UInt64) (nanoseconds : UInt32) :
    (c.withDelay seconds nanoseconds).deliverAt.toNat ≤ c.requested seconds nanoseconds := by
  have part := Nat.mod_le (milliseconds seconds nanoseconds) UInt64.size
  rw [toNat_deliverAt_withDelay, requested]
  omega

theorem deliverAt_eq_requested_iff :
    (c.withDelay seconds nanoseconds).deliverAt.toNat = c.requested seconds nanoseconds ↔
      c.Counts seconds nanoseconds := by
  rw [toNat_deliverAt_withDelay, requested, Counts]
  constructor
  · intro same
    rcases Nat.lt_or_ge (milliseconds seconds nanoseconds) UInt64.size with whole | long
    · exact .inl whole
    · right
      omega
  · rintro (whole | reached)
    · rw [Nat.mod_eq_of_lt whole]
    · have part := Nat.mod_le (milliseconds seconds nanoseconds) UInt64.size
      omega

theorem isDelayed_iff (now : UInt64) : c.isDelayed now = true ↔ now.toNat < c.deliverAt.toNat := by
  rw [isDelayed, decide_eq_true_eq, UInt64.lt_iff_toNat_lt]

theorem isDelayed_requested_iff :
    (∀ now : UInt64, now.toNat < c.requested seconds nanoseconds →
      (c.withDelay seconds nanoseconds).isDelayed now = true) ↔ c.Counts seconds nanoseconds := by
  have sooner := deliverAt_le_requested c seconds nanoseconds
  simp only [isDelayed_iff, ← deliverAt_eq_requested_iff]
  constructor
  · intro waits
    rcases Nat.lt_or_eq_of_le sooner with early | same
    · exact absurd (waits _ early) (Nat.lt_irrefl _)
    · exact same
  · intro same now before
    rwa [same]

theorem requested_mono (shorter : span shorterSeconds shorterNanoseconds ≤ span seconds nanoseconds) :
    c.requested shorterSeconds shorterNanoseconds ≤ c.requested seconds nanoseconds := by
  have fewer : milliseconds shorterSeconds shorterNanoseconds ≤ milliseconds seconds nanoseconds :=
    Nat.div_le_div_right shorter
  unfold requested
  omega

theorem milliseconds_longest : milliseconds 18446744073709551 615000000 = UInt64.size - 1 := by decide

theorem deliverAt_mono_iff :
    (∀ shorterSeconds shorterNanoseconds, span shorterSeconds shorterNanoseconds ≤ span seconds nanoseconds →
      (c.withDelay shorterSeconds shorterNanoseconds).deliverAt ≤ (c.withDelay seconds nanoseconds).deliverAt) ↔
      c.Counts seconds nanoseconds := by
  simp only [UInt64.le_iff_toNat_le]
  constructor
  · intro later
    rcases Nat.lt_or_ge (milliseconds seconds nanoseconds) UInt64.size with whole | long
    · exact .inl whole
    · -- the longest delay that counts is shorter, and with it the end of time is reached
      have shorter : span 18446744073709551 615000000 ≤ span seconds nanoseconds := by
        unfold milliseconds UInt64.size at long
        have spans : span 18446744073709551 615000000 = 18446744073709551615000000 := by decide
        omega
      have reached := later 18446744073709551 615000000 shorter
      rw [toNat_deliverAt_withDelay, toNat_deliverAt_withDelay, milliseconds_longest] at reached
      right
      have short : (UInt64.size - 1) % UInt64.size = UInt64.size - 1 := by decide
      omega
  · intro counts shorterSeconds shorterNanoseconds shorter
    rw [deliverAt_eq_requested_iff.mpr counts]
    exact Nat.le_trans (deliverAt_le_requested c _ _) (requested_mono shorter)

/-- A signal is due when its delay has passed, or at the end of time, just if the delay counts. Then it is
delayed until that time, and due no sooner than with any shorter delay; otherwise it is due too soon, and
neither is so. -/
theorem due_unless_uncounted (c : SignalContext) (seconds : UInt64) (nanoseconds : UInt32) :
    let delayed := c.withDelay seconds nanoseconds
    delayed.deliverAt.toNat =
        min (c.timestamp.toNat + milliseconds seconds nanoseconds % UInt64.size) (UInt64.size - 1) ∧
      delayed.deliverAt.toNat ≤ c.requested seconds nanoseconds ∧
      (delayed.deliverAt.toNat = c.requested seconds nanoseconds ↔ c.Counts seconds nanoseconds) ∧
      ((∀ now : UInt64, now.toNat < c.requested seconds nanoseconds → delayed.isDelayed now = true) ↔
        c.Counts seconds nanoseconds) ∧
      ((∀ shorterSeconds shorterNanoseconds, span shorterSeconds shorterNanoseconds ≤ span seconds nanoseconds →
          (c.withDelay shorterSeconds shorterNanoseconds).deliverAt ≤ delayed.deliverAt) ↔
        c.Counts seconds nanoseconds) :=
  ⟨toNat_deliverAt_withDelay c seconds nanoseconds, deliverAt_le_requested c seconds nanoseconds,
    deliverAt_eq_requested_iff, isDelayed_requested_iff, deliverAt_mono_iff⟩

/-- A delay of one millisecond more than can be counted is none at all: the signal is due at once, before
one that is delayed by a millisecond. -/
theorem uncounted_delay_lost :
    let c := ofTime 0
    milliseconds 18446744073709551 616000000 = UInt64.size ∧
      c.requested 18446744073709551 616000000 = UInt64.size - 1 ∧
      (c.withDelay 18446744073709551 616000000).deliverAt = 0 ∧
      (c.withDelay 18446744073709551 616000000).isDelayed 0 = false ∧
      span 0 1000000 ≤ span 18446744073709551 616000000 ∧
      (c.withDelay 0 1000000).deliverAt = 1 := by
  decide +kernel

end Switchboard.SignalContext
