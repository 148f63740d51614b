import Switchboard.Proofs.Bus.Claiming
import Switchboard.Proofs.Bus.Settlement
import Switchboard.Proofs.Sample.Office
import Switchboard.Proofs.Signal.Schedule

namespace Switchboard

/-! What a sweep over a ledger does: it delivers the signals that are due, each of them once, and
leaves alone those that are not. -/

variable {ω : Type}

/-- The signals that a sweep at a time delivers, of those that are scheduled. -/
def dueAt (now : UInt64) (signals : List Signal) : List Signal :=
  signals.filter fun signal => !signal.context.isDelayed now

def pendingAt (now : UInt64) (signals : List Signal) : List Signal :=
  signals.filter fun signal => signal.context.isDelayed now

section Parting

variable {now : UInt64} {signal : Signal} {signals : List Signal}

theorem mem_dueAt : signal ∈ dueAt now signals ↔
    signal ∈ signals ∧ signal.context.deliverAt ≤ now := by
  simp [dueAt, SignalContext.isDelayed]

theorem mem_pendingAt : signal ∈ pendingAt now signals ↔
    signal ∈ signals ∧ now < signal.context.deliverAt := by
  simp [pendingAt, SignalContext.isDelayed]

theorem dueAt_pendingAt_distinct (now : UInt64) (distinct : (signals.map (·.id)).Nodup) :
    ((dueAt now signals ++ pendingAt now signals).map (·.id)).Nodup := by
  have shuffled : (dueAt now signals ++ pendingAt now signals).Perm signals :=
    List.perm_append_comm.trans (List.filter_append_perm _ signals)
  exact (shuffled.map _).nodup_iff.mpr distinct

end Parting

theorem not_delivered {id : SignalId} {calls : List Call} (untouched : trail id calls = [])
    {delivery : String × Signal} (delivered : delivery ∈ deliveries calls) : delivery.2.id ≠ id := by
  intro same
  have none := deliveries_filter id calls
  rw [untouched] at none
  exact List.filter_eq_nil_iff.mp none delivery delivered (decide_eq_true same)

namespace Bus

variable {b : Bus ω} {observer : Observer ω} {w later : World ω} {calls : List Call} {signal : Signal}

/-- A claim is answered in the world that the calls before it have led to. -/
theorem Steps.claim_answered (steps : b.Steps observer w calls later) {before after : List Call} {id : SignalId}
    {answer : Except StorageError Bool} (split : calls = before ++ .claim id answer :: after) :
    ∃ middle, b.Steps observer w before middle ∧ answer = (b.store.claim id middle.outside).1 := by
  induction steps generalizing before after with
  | trans first last ihFirst ihLast =>
      rcases List.append_eq_append_iff.mp split with ⟨more, rfl, same⟩ | ⟨more, same, rest⟩
      · obtain ⟨middle, steps, answered⟩ := ihLast same
        exact ⟨middle, first.trans steps, answered⟩
      · rcases more with _ | ⟨call, more⟩
        · obtain ⟨middle, steps, answered⟩ := ihLast (show _ = [] ++ _ from rest.symm)
          rw [same, List.append_nil] at first
          have led := first.trans steps
          rw [List.append_nil] at led
          exact ⟨middle, led, answered⟩
        · obtain ⟨rfl, rfl⟩ := List.cons_eq_cons.mp rest
          exact ihFirst same
  | claim w id =>
      rcases before with _ | ⟨call, before⟩
      · cases split
        exact ⟨w, .refl w, rfl⟩
      · simp at split
  | _ => rcases before with _ | ⟨call, before⟩ <;> simp at split

theorem Publishes.delivered {queue : List Signal} {result : Except Halt Unit}
    (published : b.Publishes queue calls result) {delivery : String × Signal}
    (delivered : delivery ∈ deliveries calls) :
    delivery.2.id ∈ queue.map (·.id) ++ newIds calls := by
  by_contra absent
  exact not_delivered (published.untouched absent) delivered rfl

/-- Of the signals with these ids, only the one that is carried out is delivered. -/
theorem CarriesOut.handed {outcome : Outcome} (carried : b.CarriesOut signal calls (.ok outcome))
    {known : List SignalId} (own : signal.id ∈ known) (unseen : ∀ id ∈ known, id ∉ newIds calls) :
    (deliveries calls).filter (fun delivery => delivery.2.id ∈ known) = b.recipients signal := by
  obtain ⟨outcomes, published, lengths, rfl, -, publishes⟩ := carried.done
  have gathered : newIds (b.handled signal outcomes) = (outcomes.flatMap Outcome.followUps).map (·.id) := by
    rw [handled, newIds_append, newIds_answered lengths]
    exact List.append_nil _
  rw [newIds_append, gathered] at unseen
  rw [deliveries_append, deliveries_handled lengths, List.filter_append, List.filter_eq_self.mpr,
    List.filter_eq_nil_iff.mpr, List.append_nil]
  · intro delivery delivered among
    exact unseen _ (of_decide_eq_true among) (publishes.delivered delivered)
  · intro delivery among
    obtain ⟨c, -, rfl⟩ := List.mem_map.mp among
    exact decide_eq_true own

/-- What a sweep comes to and what it leaves, from a list of scheduled signals. -/
structure Swept (b : Bus ω) (now : UInt64) (start : SignalRecords) (signals : List Signal)
    (report : SweepReport) (calls : List Call) (final : SweepReport) : Prop where
  claimed : claimedIds calls = (dueAt now signals).map (·.id)
  settled : ∀ signal ∈ dueAt now signals, ∃ outcome : Outcome,
    start.after calls signal.id = some ⟨signal, outcome.status, settledError outcome⟩
  handed : ∀ known : List SignalId, (∀ signal ∈ dueAt now signals, signal.id ∈ known) →
    (∀ id ∈ known, id ∉ newIds calls) →
    (deliveries calls).filter (fun delivery => delivery.2.id ∈ known) = (dueAt now signals).flatMap b.recipients
  untouched : ∀ id, id ∉ (dueAt now signals).map (·.id) → id ∉ newIds calls → trail id calls = []
  counted : final = ⟨report.delivered + (dueAt now signals).length,
    report.pending + (pendingAt now signals).length, report.alreadyClaimed⟩

namespace Swept

variable {now : UInt64} {start : SignalRecords} {rest : List Signal} {report final : SweepReport}
  {more : List Call} {outcome : Outcome}

theorem pending (delayed : signal.context.isDelayed now = true)
    (swept : b.Swept now start rest { report with pending := report.pending + 1 } calls final) :
    b.Swept now start (signal :: rest) report calls final := by
  have due : dueAt now (signal :: rest) = dueAt now rest := by simp [dueAt, delayed]
  have waiting : pendingAt now (signal :: rest) = signal :: pendingAt now rest := by simp [pendingAt, delayed]
  refine ⟨due ▸ swept.claimed, due ▸ swept.settled, due ▸ swept.handed, due ▸ swept.untouched, ?_⟩
  rw [swept.counted, due, waiting, List.length_cons, Nat.add_assoc, Nat.add_comm 1]

/-- What is delivered is settled by that, and nothing that follows touches it. -/
theorem delivered (due : signal.context.isDelayed now = false) (carried : b.CarriesOut signal calls (.ok outcome))
    (other : signal.id ∉ rest.map (·.id)) (unseen : signal.id ∉ newIds calls ++ newIds more)
    (swept : b.Swept now (start.after (.claim signal.id (.ok true) :: calls)) rest
      { report with delivered := report.delivered + 1 } more final) :
    b.Swept now start (signal :: rest) report (.claim signal.id (.ok true) :: (calls ++ more)) final := by
  have first : dueAt now (signal :: rest) = signal :: dueAt now rest := by simp [dueAt, due]
  have waiting : pendingAt now (signal :: rest) = pendingAt now rest := by simp [pendingAt, due]
  have split : Call.claim signal.id (.ok true) :: (calls ++ more) =
      (.claim signal.id (.ok true) :: calls) ++ more := rfl
  have drawn : newIds (.claim signal.id (.ok true) :: (calls ++ more)) = newIds calls ++ newIds more :=
    newIds_append calls more
  have apart : signal.id ∉ (dueAt now rest).map (·.id) := fun among =>
    other ((List.filter_sublist.map _).subset among)
  rw [List.mem_append, not_or] at unseen
  constructor
  · change signal.id :: claimedIds (calls ++ more) = _
    rw [claimedIds_append, carried.neutral.claimedIds, swept.claimed, first]
    rfl
  · intro s member
    rw [first] at member
    rw [split, SignalRecords.after_append]
    rcases List.mem_cons.mp member with rfl | member
    · obtain ⟨outcomes, published, lengths, rfl, -, publishes⟩ := carried.done
      rw [SignalRecords.after_untouched (swept.untouched _ apart unseen.2)]
      exact ⟨_, handled_record publishes lengths unseen.1 _⟩
    · exact swept.settled s member
  · intro known among fresh
    rw [first] at among
    rw [drawn] at fresh
    obtain ⟨own, others⟩ := List.forall_mem_cons.mp among
    have here := carried.handed own fun id member => (List.mem_append.not.trans not_or).mp (fresh id member) |>.1
    have later := swept.handed known others fun id member =>
      (List.mem_append.not.trans not_or).mp (fresh id member) |>.2
    change List.filter _ (deliveries (calls ++ more)) = _
    rw [deliveries_append, List.filter_append, here, later, first]
    rfl
  · intro id absent undrawn
    rw [first, List.map_cons, List.mem_cons, not_or] at absent
    rw [drawn, List.mem_append, not_or] at undrawn
    rw [trail_claimed_ne (Ne.symm absent.1), trail_append, swept.untouched id absent.2 undrawn.2, List.append_nil]
    apply carried.untouched
    rw [List.mem_cons, not_or]
    exact ⟨absent.1, undrawn.1⟩
  · rw [swept.counted, first, waiting, List.length_cons, Nat.add_assoc, Nat.add_comm 1]

end Swept

namespace Swept

variable {now : UInt64} {start : SignalRecords} {signals : List Signal} {report final : SweepReport}

theorem kept (swept : b.Swept now start signals report calls final) (distinct : (signals.map (·.id)).Nodup)
    (unseen : ∀ signal ∈ signals, signal.id ∉ newIds calls) (pending : signal ∈ pendingAt now signals) :
    trail signal.id calls = [] := by
  have apart := dueAt_pendingAt_distinct now distinct
  rw [List.map_append] at apart
  apply swept.untouched
  · intro among
    exact List.disjoint_of_nodup_append apart among (List.mem_map_of_mem pending)
  · exact unseen signal (mem_pendingAt.mp pending).1

/-- A sweep schedules nothing, so what is scheduled after it was pending. -/
theorem scheduled_iff (swept : b.Swept now start signals report calls final) (distinct : (signals.map (·.id)).Nodup)
    (listed : ∀ signal, signal ∈ signals ↔ start.Scheduled signal) (served : start.Serve calls)
    (unscheduled : scheduledIds calls = []) (new : ∀ id ∈ newIds calls, start id = none) :
    (start.after calls).Scheduled signal ↔ signal ∈ pendingAt now signals := by
  have unseen : ∀ signal ∈ signals, signal.id ∉ newIds calls := by
    intro signal member drawn
    obtain ⟨r, found, -⟩ := (listed signal).mp member
    cases (new _ drawn).symm.trans found
  constructor
  · rintro ⟨r, found, same, status⟩
    have undrawn : signal.id ∉ newIds calls := by
      intro drawn
      have counted := count_claimedIds served signal.id
      rw [unscheduled, new _ drawn, found] at counted
      simp [waiting, status] at counted
    have undue : signal.id ∉ (dueAt now signals).map (·.id) := by
      intro among
      obtain ⟨s, due, named⟩ := List.mem_map.mp among
      obtain ⟨outcome, settled⟩ := swept.settled s due
      rw [named, found] at settled
      cases settled
      cases outcome <;> cases status
    rw [SignalRecords.after_untouched (swept.untouched _ undue undrawn)] at found
    have member := (listed signal).mpr ⟨r, found, same, status⟩
    refine mem_pendingAt.mpr ⟨member, ?_⟩
    by_contra late
    exact undue (List.mem_map_of_mem (mem_dueAt.mpr ⟨member, UInt64.not_lt.mp late⟩))
  · intro pending
    obtain ⟨r, found, same⟩ := (listed signal).mp (mem_pendingAt.mp pending).1
    exact ⟨r, (SignalRecords.after_untouched (swept.kept distinct unseen pending) start).trans found, same⟩

end Swept

/-- If every claim is granted that can be, a sweep that comes to its end delivers all that is due. -/
theorem Sweeps.swept {now : UInt64} {start : SignalRecords} {signals : List Signal} {report final : SweepReport}
    (sweeps : b.Sweeps now signals report calls (.ok final))
    (granted : ∀ before id answer after, calls = before ++ .claim id answer :: after →
      answer = .ok (decide ((start.after before id).map (·.status) = some .scheduled)))
    (scheduled : ∀ signal ∈ signals, start.Scheduled signal) (distinct : (signals.map (·.id)).Nodup)
    (unseen : ∀ signal ∈ signals, signal.id ∉ newIds calls) : b.Swept now start signals report calls final := by
  generalize came : (.ok final : Except Halt SweepReport) = result at sweeps
  induction sweeps generalizing start with
  | done report =>
      cases came
      exact ⟨rfl, by simp [dueAt], fun _ _ _ => rfl, fun _ _ _ => rfl, rfl⟩
  | pending delayed later ih =>
      obtain ⟨-, others⟩ := List.forall_mem_cons.mp scheduled
      obtain ⟨-, apart⟩ := List.nodup_cons.mp distinct
      obtain ⟨-, remaining⟩ := List.forall_mem_cons.mp unseen
      exact .pending delayed (ih granted others apart remaining came)
  | unclaimed error => cases came
  | @taken signal rest report calls result later ih =>
      obtain ⟨r, found, -, status⟩ := scheduled signal List.mem_cons_self
      have refused := granted [] signal.id (.ok false) calls rfl
      change Except.ok false = .ok (decide ((start signal.id).map (·.status) = some .scheduled)) at refused
      simp [found, status] at refused
  | broken due carried => cases came
  | @delivered signal rest report calls more outcome result due carried later ih =>
      have drawn : newIds (.claim signal.id (.ok true) :: (calls ++ more)) = newIds calls ++ newIds more :=
        newIds_append calls more
      rw [drawn] at unseen
      obtain ⟨own, remaining⟩ := List.forall_mem_cons.mp unseen
      obtain ⟨other, apart⟩ := List.nodup_cons.mp distinct
      refine .delivered due carried other own (ih ?_ ?_ apart ?_ came)
      · rintro before id answer after rfl
        have answered := granted (.claim signal.id (.ok true) :: (calls ++ before)) id answer after (by simp)
        rw [answered, ← List.cons_append, SignalRecords.after_append]
      · intro s member
        obtain ⟨r, found, same⟩ := scheduled s (List.mem_cons_of_mem _ member)
        have different : signal.id ≠ s.id := fun equal => other (List.mem_map.mpr ⟨s, member, equal.symm⟩)
        refine ⟨r, ?_, same⟩
        rw [SignalRecords.after_untouched, found]
        rw [trail_claimed_ne different]
        apply carried.untouched
        rw [List.mem_cons, not_or]
        exact ⟨Ne.symm different, (List.mem_append.not.trans not_or).mp (remaining s member) |>.1⟩
      · intro s member
        exact (List.mem_append.not.trans not_or).mp (remaining s member) |>.2

/-- Nothing is done about signals that are not due. -/
theorem sweepSignal_pending {now : UInt64} {signals : List Signal}
    (delayed : ∀ signal ∈ signals, signal.context.isDelayed now = true) (fuel : Nat) (report : SweepReport)
    (w : World ω) :
    signals.foldlM (b.sweepSignal fuel now) report w =
      (.ok { report with pending := report.pending + signals.length }, w) := by
  induction signals generalizing report with
  | nil => rfl
  | cons signal rest ih =>
      obtain ⟨here, others⟩ := List.forall_mem_cons.mp delayed
      have counted : b.sweepSignal fuel now report signal w =
          (.ok { report with pending := report.pending + 1 }, w) := by
        rw [sweepSignal, if_pos here]
        rfl
      rw [List.foldlM_cons, Run.bind_ok counted, ih others, List.length_cons, Nat.add_assoc, Nat.add_comm 1]

/-- The bus with a ledger for its store. -/
def keeping (b : Bus ω) (place : Place ω SignalLedger) : Bus ω := { b with store := SignalLedger.store place }

theorem registry_keeping (b : Bus ω) (place : Place ω SignalLedger) (kind : SignalKind) :
    (b.keeping place).registry kind = b.registry kind := by
  cases kind <;> rfl

theorem Apart.keeping {view : b.store.View} {place : Place ω SignalLedger} (apart : b.Apart view)
    (same : view.record = (SignalLedger.view place).record) : (b.keeping place).Apart (SignalLedger.view place) := by
  constructor
  · intro kind type c member
    rw [registry_keeping] at member
    cases apart.consumers member with
    | handlers set apart => exact .handlers set (same ▸ apart)
    | repository r place apart => exact .repository r place (same ▸ apart)
  · rw [← same]
    exact apart.system

section Keeping

variable {place : Place ω SignalLedger} {now : UInt64}

theorem scheduled_keeping (b : Bus ω) (place : Place ω SignalLedger) (outside : ω) :
    (b.keeping place).store.scheduled outside = (.ok (place.get outside).scheduled, outside) :=
  congrArg (Prod.mk _) (place.set_get outside)

theorem listed_keeping (w : World ω) :
    Run.storing (b.keeping place).store.scheduled w = (.ok (place.get w.outside).scheduled, w) := by
  rw [Run.storing_apply, scheduled_keeping]
  rfl

theorem listed_recorded (w : World ω) (earlier : List Call) :
    Run.storing (b.keeping place).recorded.store.scheduled (w.recorded earlier) =
      (.ok (place.get w.outside).scheduled,
        w.recorded (earlier ++ [.scheduled (.ok (place.get w.outside).scheduled)])) := by
  rw [Run.storing_apply]
  simp only [Bus.recorded, SignalStore.recorded, Recorded.noting, World.recorded, scheduled_keeping]
  rfl

theorem sweepDue_keeping (b : Bus ω) (place : Place ω SignalLedger) (fuel : Nat) (observer : Observer ω)
    (now : UInt64) (w : World ω) :
    (b.keeping place).Traced observer w ((b.keeping place).recorded.sweepDue fuel now)
      ((b.keeping place).sweepDue fuel now) fun calls result =>
        ∃ more, calls = .scheduled (.ok (place.get w.outside).scheduled) :: more ∧
          (b.keeping place).Sweeps now (place.get w.outside).scheduled ⟨0, 0, 0⟩ more result := by
  obtain ⟨more, sweeps, steps, same⟩ := sweeps_traced (b := b.keeping place) fuel observer now
    (place.get w.outside).scheduled ⟨0, 0, 0⟩ w
  have gone : (b.keeping place).sweepDue fuel now w = _ := Run.bind_ok (listed_keeping w)
  have listing : (b.keeping place).Steps observer w _ _ := .scheduled w
  rw [scheduled_keeping] at listing
  rw [Traced, gone]
  refine ⟨_, ⟨more, rfl, sweeps⟩, listing.trans steps, fun earlier => ?_⟩
  have recorded : (b.keeping place).recorded.sweepDue fuel now (w.recorded earlier) = _ :=
    Run.bind_ok (listed_recorded w earlier)
  rw [recorded, same, List.append_assoc]
  rfl

theorem sweepDue_pending (b : Bus ω) {w : World ω}
    (delayed : ∀ signal ∈ (place.get w.outside).scheduled, signal.context.isDelayed now = true) (fuel : Nat) :
    (b.keeping place).sweepDue fuel now w = (.ok ⟨0, (place.get w.outside).scheduled.length, 0⟩, w) ∧
      ∀ earlier, (b.keeping place).recorded.sweepDue fuel now (w.recorded earlier) =
        (.ok ⟨0, (place.get w.outside).scheduled.length, 0⟩,
          w.recorded (earlier ++ [.scheduled (.ok (place.get w.outside).scheduled)])) := by
  constructor
  · rw [sweepDue, Run.bind_ok (listed_keeping w), sweepSignal_pending delayed, Nat.zero_add]
  · intro earlier
    rw [sweepDue, Run.bind_ok (listed_recorded w earlier), sweepSignal_pending delayed, Nat.zero_add]

/-- A ledger grants a claim exactly if the signal is scheduled at that time. -/
theorem Steps.claim_granted (apart : (b.keeping place).Apart (SignalLedger.view place))
    (steps : (b.keeping place).Steps .discarding w calls later) {before after : List Call} {id : SignalId}
    {answer : Except StorageError Bool} (split : calls = before ++ .claim id answer :: after) :
    answer = .ok (decide (((SignalLedger.view place).record w.outside |>.after before id).map (·.status) =
      some .scheduled)) := by
  obtain ⟨middle, led, answered⟩ := steps.claim_answered split
  have reached := (led.progress apart fun _ _ => ⟨rfl, .refl _⟩).records
  rw [← reached, answered]
  exact congrArg Except.ok (Bool.eq_iff_iff.mpr ((SignalLedger.claim_iff ..).trans decide_eq_true_iff.symm))

/-- A sweep over a ledger, to its end, delivers exactly the signals that are due: each once, to all
who take it, those due first in front, and each is settled. The others are left as they are, and
a second sweep at the same time finds no more than them. -/
theorem sweep_delivers_due {fuel : Nat} {w after : World ω} {report : SweepReport}
    (apart : (b.keeping place).Apart (SignalLedger.view place))
    (indexed : SignalRecords.Indexed (place.get w.outside).record?)
    (fresh : w.supply.Fresh after.supply.idsDrawn fun id => ((place.get w.outside).record? id).isSome)
    (swept : (b.keeping place).sweepDue fuel now w = (.ok report, after)) :
    let before : SignalRecords := (place.get w.outside).record?
    let later : SignalRecords := (place.get after.outside).record?
    ∃ (due pending : List Signal) (calls : List Call),
      (b.keeping place).recorded.sweepDue fuel now (w.recorded []) = (.ok report, after.recorded calls) ∧
      (∀ s, s ∈ due ↔ before.Scheduled s ∧ s.context.deliverAt ≤ now) ∧
      (∀ s, s ∈ pending ↔ before.Scheduled s ∧ now < s.context.deliverAt) ∧
      ((due ++ pending).map (·.id)).Nodup ∧
      due.Pairwise (fun first second => first.context.deliverAt < second.context.deliverAt ∨
        first.context.deliverAt = second.context.deliverAt ∧
          first.context.timestamp ≤ second.context.timestamp) ∧
      claimedIds calls = due.map (·.id) ∧
      (deliveries calls).filter (fun delivery => delivery.2.id ∈ due.map (·.id)) =
        due.flatMap (b.keeping place).recipients ∧
      (∀ s ∈ due, ∃ status ∈ [.ok, .rejected, .error], ∃ error, later s.id = some ⟨s, status, error⟩) ∧
      (∀ s ∈ pending, later s.id = before s.id ∧ ∀ delivery ∈ deliveries calls, delivery.2.id ≠ s.id) ∧
      report = ⟨due.length, pending.length, 0⟩ ∧
      ∀ fuel, (b.keeping place).sweepDue fuel now after = (.ok ⟨0, pending.length, 0⟩, after) ∧
        ∀ earlier, ∃ listed, (b.keeping place).recorded.sweepDue fuel now (after.recorded earlier) =
          (.ok ⟨0, pending.length, 0⟩, after.recorded (earlier ++ [.scheduled (.ok listed)])) := by
  intro before later
  obtain ⟨calls, ⟨more, rfl, sweeps⟩, steps, same⟩ :=
    sweepDue_keeping b place fuel .discarding now w
  rw [swept] at sweeps steps same
  have progress := steps.progress apart fun _ _ => ⟨rfl, .refl _⟩
  have records : later = before.after more := progress.records
  have new : ∀ id ∈ newIds more, before id = none := fun id drawn =>
    Option.not_isSome_iff_eq_none.mp (progress.draws.not_used (Nat.le_refl _) fresh drawn)
  have listed := SignalLedger.mem_scheduled indexed
  have distinct := SignalLedger.scheduled_distinct indexed
  have sorted := SignalLedger.scheduled_sorted (place.get w.outside)
  generalize (place.get w.outside).scheduled = signals at *
  have unseen : ∀ s ∈ signals, s.id ∉ newIds more := by
    intro s member drawn
    obtain ⟨r, found, -⟩ := (listed s).mp member
    cases (new _ drawn).symm.trans found
  have granted : ∀ early id answer rest, more = early ++ .claim id answer :: rest →
      answer = .ok (decide ((before.after early id).map (·.status) = some .scheduled)) := by
    rintro early id answer rest rfl
    have answered := steps.claim_granted apart (@List.cons_append _ _ early _).symm
    exact answered
  have done := sweeps.swept granted (fun s member => (listed s).mp member) distinct unseen
  have left : ∀ s, later.Scheduled s ↔ s ∈ pendingAt now signals := fun s => by
    rw [records]
    exact done.scheduled_iff distinct listed progress.served.2 sweeps.scheduledIds new
  have indexedLater : later.Indexed := by
    rw [records]
    exact indexed.after more
  -- what is scheduled now is what was pending, though perhaps in another order
  have remaining : ∀ s, s ∈ (place.get after.outside).scheduled ↔ s ∈ pendingAt now signals := fun s =>
    (SignalLedger.mem_scheduled indexedLater s).trans (left s)
  have counted : (place.get after.outside).scheduled.length = (pendingAt now signals).length := by
    refine List.Perm.length_eq ((List.perm_ext_iff_of_nodup ?_ ?_).mpr remaining)
    · exact (SignalLedger.scheduled_distinct indexedLater).of_map _
    · exact (distinct.of_map _).sublist List.filter_sublist
  have delayed : ∀ s ∈ (place.get after.outside).scheduled, s.context.isDelayed now = true := fun s member =>
    decide_eq_true (mem_pendingAt.mp ((remaining s).mp member)).2
  have idle := sweepDue_pending b delayed
  rw [counted] at idle
  refine ⟨dueAt now signals, pendingAt now signals, _, same [], ?_, ?_, dueAt_pendingAt_distinct now distinct, ?_,
    done.claimed, ?_, ?_, ?_, ?_, ?_⟩
  · exact fun s => mem_dueAt.trans (and_congr_left' (listed s))
  · exact fun s => mem_pendingAt.trans (and_congr_left' (listed s))
  · exact (sorted.sublist List.filter_sublist).imp fun earlier => (SignalLedger.isEarlier_iff ..).mp earlier
  · refine done.handed _ (fun s member => List.mem_map_of_mem member) ?_
    intro id member
    obtain ⟨s, due, rfl⟩ := List.mem_map.mp member
    exact unseen s (mem_dueAt.mp due).1
  · intro s member
    obtain ⟨outcome, settled⟩ := done.settled s member
    refine ⟨outcome.status, ?_, _, records ▸ settled⟩
    cases outcome <;> simp [Outcome.status]
  · intro s member
    have untouched := done.kept distinct unseen member
    refine ⟨?_, fun delivery delivered => not_delivered untouched delivered⟩
    rw [records]
    exact SignalRecords.after_untouched untouched before
  · simpa using done.counted
  · exact fun fuel => ⟨(idle fuel).1, fun earlier => ⟨_, (idle fuel).2 earlier⟩⟩

end Keeping

open Sample Office in
/-- A deposit that was posted to be delivered later is due. -/
theorem sweep_delivers_due_office :
    let office := Office.bus.keeping ledger
    let waiting := (office.post 9 .discarding Office.later (opened .none)).2
    let run := office.sweepDue 9 9 waiting
    run.1 = .ok ⟨1, 0, 0⟩ ∧
      ∃ (due : List Signal) (calls : List Call),
        office.recorded.sweepDue 9 9 (waiting.recorded []) = (.ok ⟨1, 0, 0⟩, run.2.recorded calls) ∧
        due.length = 1 ∧ claimedIds calls = due.map (·.id) ∧
        (∀ s ∈ due, ∃ status ∈ [.ok, .rejected, .error], ∃ error,
          (ledger.get run.2.outside).record? s.id = some ⟨s, status, error⟩) ∧
        (office.sweepDue 9 9 run.2).1 = .ok ⟨0, 0, 0⟩ := by
  intro office waiting run
  have swept : run.1 = .ok ⟨1, 0, 0⟩ := by decide +kernel
  have came : run = (.ok ⟨1, 0, 0⟩, run.2) := Prod.ext swept rfl
  have drawn : run.2.supply.idsDrawn = 1 := by decide +kernel
  have new : ((ledger.get waiting.outside).record? (waiting.supply.ids 0)).isSome = false := by decide +kernel
  have indexed : SignalRecords.Indexed (ledger.get waiting.outside).record? := by
    obtain ⟨calls, -, steps, -⟩ := post_traced (b := office) 9 .discarding Office.later (opened .none)
    have records := (steps.progress (bus_apart.keeping rfl) discarding_apart).records
    change SignalRecords.Indexed ((SignalLedger.view ledger).record waiting.outside)
    exact records ▸ SignalRecords.Indexed.after (fun id r found => by cases found) calls
  have fresh : waiting.supply.Fresh run.2.supply.idsDrawn
      fun id => ((ledger.get waiting.outside).record? id).isSome := by
    rw [drawn]
    constructor
    · intro n _ below used
      obtain rfl : n = 0 := by omega
      rw [new] at used
      cases used
    · intro m n _ belowM _ belowN _
      omega
  obtain ⟨due, pending, calls, same, -, -, -, -, claimed, -, settled, -, counted, again⟩ :=
    sweep_delivers_due (bus_apart.keeping rfl) indexed fresh came
  obtain ⟨one, other⟩ : 1 = due.length ∧ pending = [] := by simpa [eq_comm] using counted
  refine ⟨swept, due, calls, same, one.symm, claimed, settled, ?_⟩
  rw [(again 9).1, other]
  rfl

end Bus

end Switchboard
