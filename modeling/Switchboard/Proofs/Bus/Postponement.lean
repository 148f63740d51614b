import Switchboard.Proofs.Bus.Foresight
import Switchboard.Proofs.Bus.Sweeping

namespace Switchboard

/-! Signals that are put off. Once such a signal is due, a sweep does with it what would have been done
if it had been posted only then. -/

variable {ω α β : Type}

/-- What is left of a run: whether it broke off, and all that is outside. -/
def Run.leaves (program : Run ω α) (w : World ω) : Except Halt Unit × ω :=
  ((program w).1.map fun _ => (), (program w).2.outside)

theorem Run.leaves_blind {program : Run ω α} (blind : Computation.Blind (World.Alike id) program.run)
    {u v : World ω} (same : World.Alike id u v) : program.leaves v = program.leaves u := by
  obtain ⟨value, after⟩ := blind same
  exact Prod.ext (congrArg (Except.map fun _ => ()) value.symm) after.outside

theorem Run.leaves_discard (program : Run ω α) (value : β) (w : World ω) :
    (do discard program; return value : Run ω β).leaves w = program.leaves w := by
  rcases ran : program w with ⟨halt | made, after⟩
  · have broken : (discard program : Run ω Unit) w = (.error halt, after) := bind_error ran
    rw [leaves, leaves, bind_error broken, ran]
    rfl
  · have done : (discard program : Run ω Unit) w = (.ok (), after) := bind_ok ran
    rw [leaves, leaves, bind_ok done, ran]
    rfl

theorem Run.leaves_ok {program : Run ω α} {next : α → Run ω β} {w after : World ω} {value : α}
    (done : program w = (.ok value, after)) : (program >>= next).leaves w = (next value).leaves after := by
  rw [leaves, bind_ok done, leaves]

section Notified

variable {observer : Observer ω} {ack : Ack} {w after : World ω}

theorem Run.notifying_ok (heard : (observer ack w).1 = .ok ()) :
    notifying observer ack w = (.ok (), (observer ack w).2) := by
  rw [notifying_apply, heard]
  rfl

/-- A run that comes to its end has told of what it had to tell. -/
theorem Run.notified_bind {next : Unit → Run ω α} {value : α}
    (ran : (notifying observer ack >>= next) w = (.ok value, after)) :
    (observer ack w).1 = .ok () ∧ next () (observer ack w).2 = (.ok value, after) := by
  cases heard : (observer ack w).1 with
  | error error =>
      have told := notifying_apply observer ack w
      rw [heard] at told
      rw [bind_error told] at ran
      cases ran
  | ok done => exact ⟨rfl, (bind_ok (notifying_ok heard)).symm.trans ran⟩

end Notified

namespace Bus

variable {b : Bus ω} {observer : Observer ω} {place : Place ω SignalLedger} {signal : Signal} {fuel : Nat}

/-- The signal is of a supported type, and nothing is wrong with it. -/
def admits (b : Bus ω) (signal : Signal) : Bool :=
  ((b.registry signal.kind).class? signal.type).any fun message => (b.defect? signal message).isNone

theorem admits_iff : b.admits signal = true ↔
    ∃ message, (b.registry signal.kind).class? signal.type = some message ∧ b.defect? signal message = none := by
  simp [admits, Option.any_eq_true]

/-- The supply when it is known whether the signal is due: only for a signal that is admitted the clock
is read. -/
def decided (b : Bus ω) (signal : Signal) (supply : Supply) : Supply :=
  if b.admits signal then (Supply.now supply).2 else supply

/-- What is done with a signal that need not be put off. -/
def take (b : Bus ω) (fuel : Nat) (observer : Observer ω) (signal : Signal) : Run ω Outcome :=
  match (b.registry signal.kind).class? signal.type with
  | none => do
      Run.notifying observer (.error signal.id (unsupportedRecord signal))
      return .failure (unsupportedRecord signal)
  | some message =>
      match b.defect? signal message with
      | some defect => do
          b.save signal .error (some defect.record)
          Run.notifying observer (.error signal.id defect.record)
          return .failure defect.record
      | none => do
          b.save signal .received none
          Run.notifying observer (.ok signal.id)
          b.carryOut fuel signal

theorem take_blind (plain : b.Plain place) (unaware : observer.Unaware place) (fuel : Nat) (signal : Signal) :
    Computation.Blind (World.Alike id) (b.take fuel observer signal).run := by
  have notified : ∀ ack, Computation.Blind (World.Alike id) (Run.notifying observer ack).run := fun ack =>
    Run.notifying_blind (unaware.blind ack)
  unfold take
  cases (b.registry signal.kind).class? signal.type with
  | none => exact Run.bind_blind (notified _) fun _ => .pure _
  | some message =>
      dsimp only
      cases b.defect? signal message with
      | some defect =>
          exact Run.bind_blind (Run.storing_blind _) fun _ => Run.bind_blind (notified _) fun _ => .pure _
      | none =>
          exact Run.bind_blind (Run.storing_blind _) fun _ =>
            Run.bind_blind (notified _) fun _ => plain.carryOut_blind fuel signal

theorem accept_refused (refused : b.admits signal = false) :
    b.accept fuel observer signal = b.take fuel observer signal := by
  unfold accept take
  cases known : (b.registry signal.kind).class? signal.type with
  | none => rfl
  | some message =>
      cases found : b.defect? signal message with
      | some defect => simp only [found]
      | none => exact absurd (admits_iff.mpr ⟨message, known, found⟩) (by simp [refused])

theorem accept_admitted (admitted : b.admits signal = true) (w : World ω) :
    b.accept fuel observer signal w =
      (if signal.context.isDelayed (Supply.now w.supply).1 then do
        b.save signal .scheduled none
        Run.notifying observer (.ok signal.id)
        return .success []
      else do
        b.save signal .received none
        Run.notifying observer (.ok signal.id)
        b.carryOut fuel signal : Run ω Outcome) ⟨(Supply.now w.supply).2, w.outside⟩ := by
  obtain ⟨message, known, found⟩ := admits_iff.mp admitted
  simp only [accept, known, found]
  exact Run.bind_ok (Run.acting_apply _ w)

theorem take_admitted (admitted : b.admits signal = true) :
    b.take fuel observer signal = (do
      b.save signal .received none
      Run.notifying observer (.ok signal.id)
      b.carryOut fuel signal) := by
  obtain ⟨message, known, found⟩ := admits_iff.mp admitted
  simp only [take, known, found]

/-- A signal that is posted when it is due is not put off. -/
theorem accept_due {w : World ω} (due : signal.context.deliverAt ≤ (Supply.now w.supply).1) :
    b.accept fuel observer signal w = b.take fuel observer signal ⟨b.decided signal w.supply, w.outside⟩ := by
  cases admission : b.admits signal with
  | false => rw [accept_refused admission, decided, admission]; rfl
  | true =>
      have prompt : signal.context.isDelayed (Supply.now w.supply).1 = false :=
        decide_eq_false (UInt64.not_lt.mpr due)
      rw [accept_admitted admission, take_admitted admission, decided, admission, prompt]
      rfl

section Keeping

variable {now : UInt64} {w middle : World ω} {outcome : Outcome}

theorem save_keeping (b : Bus ω) (place : Place ω SignalLedger) (signal : Signal) (status : SignalStatus)
    (error : Option ErrorRecord) (w : World ω) : (b.keeping place).save signal status error w =
      (.ok (), ⟨w.supply, place.set ((place.get w.outside).save signal status error) w.outside⟩) :=
  Run.storing_apply _ w

theorem claim_keeping (b : Bus ω) (place : Place ω SignalLedger) (id : SignalId) (w : World ω) :
    Run.storing ((b.keeping place).store.claim id) w =
      (.ok ((place.get w.outside).claim id).1, ⟨w.supply, place.set ((place.get w.outside).claim id).2 w.outside⟩) :=
  Run.storing_apply _ w

/-- What a sweep leaves that has nothing but one signal to deliver. -/
theorem sweepDue_single (b : Bus ω) {l : SignalLedger} (waiting : (place.get w.outside).scheduled = [signal])
    (granted : (place.get w.outside).claim signal.id = (true, l)) (due : signal.context.deliverAt ≤ now) :
    ((b.keeping place).sweepDue fuel now).leaves w =
      ((b.keeping place).carryOut fuel signal).leaves ⟨w.supply, place.set l w.outside⟩ := by
  have prompt : signal.context.isDelayed now = false := decide_eq_false (UInt64.not_lt.mpr due)
  have claimed := claim_keeping b place signal.id w
  rw [granted] at claimed
  rw [sweepDue, Run.leaves_ok (listed_keeping w), waiting, List.foldlM_cons, sweepSignal, if_neg (by simp [prompt]),
    bind_assoc, Run.leaves_ok claimed, if_pos rfl, bind_assoc]
  exact Run.leaves_discard _ _ _

/-- A signal that is refused is not put off either. -/
theorem take_idle (unaware : observer.Unaware place) (refused : (b.keeping place).admits signal = false)
    (idle : (place.get w.outside).scheduled = [])
    (taken : (b.keeping place).take fuel observer signal w = (.ok outcome, middle)) :
    (place.get middle.outside).scheduled = [] := by
  unfold take at taken
  cases known : ((b.keeping place).registry signal.kind).class? signal.type with
  | none =>
      simp only [known] at taken
      obtain ⟨-, done⟩ := Run.notified_bind taken
      cases done
      rw [unaware.get, idle]
  | some message =>
      cases found : (b.keeping place).defect? signal message with
      | some defect =>
          simp only [known, found] at taken
          rw [Run.bind_ok (save_keeping ..)] at taken
          obtain ⟨-, done⟩ := Run.notified_bind taken
          cases done
          rw [unaware.get, place.get_set, SignalLedger.scheduled_save idle, if_neg nofun]
      | none => exact absurd (admits_iff.mpr ⟨message, known, found⟩) (by simp [refused])

/-- Once it is due, a sweep does with a signal what else would have been done with it at once. -/
theorem sweepDue_leaves (plain : (b.keeping place).Plain place) (unaware : observer.Unaware place)
    (idle : (place.get w.outside).scheduled = [])
    (posted : (b.keeping place).accept fuel observer signal w = (.ok outcome, middle))
    (early : (Supply.now w.supply).1 < signal.context.deliverAt) (due : signal.context.deliverAt ≤ now) :
    ((b.keeping place).sweepDue fuel now).leaves middle =
      ((b.keeping place).take fuel observer signal).leaves ⟨(b.keeping place).decided signal w.supply, w.outside⟩ := by
  cases admission : (b.keeping place).admits signal with
  | false =>
      rw [accept_refused admission] at posted
      have left := take_idle unaware admission idle posted
      have nothing : ∀ s ∈ (place.get middle.outside).scheduled, s.context.isDelayed now = true := by simp [left]
      have swept := (sweepDue_pending b nothing fuel).1
      rw [Run.leaves, swept, decided, admission, if_neg nofun, Run.leaves, posted]
      rfl
  | true =>
      have delayed : signal.context.isDelayed (Supply.now w.supply).1 = true := decide_eq_true early
      rw [accept_admitted admission, if_pos delayed, Run.bind_ok (save_keeping ..)] at posted
      obtain ⟨heard, done⟩ := Run.notified_bind posted
      cases done
      rw [take_admitted admission, decided, admission, if_pos rfl, Run.leaves_ok (save_keeping ..)]
      generalize (Supply.now w.supply).2 = supply at heard ⊢
      -- whoever is told of the signal cannot see which of the two records it has
      obtain ⟨value, same⟩ := unaware.exchange (.ok signal.id) ((place.get w.outside).save signal .scheduled none)
        ((place.get w.outside).save signal .received none) ⟨supply, w.outside⟩
      have kept := unaware.get (.ok signal.id)
        ⟨supply, place.set ((place.get w.outside).save signal .scheduled none) w.outside⟩
      rw [place.get_set] at kept
      rw [Run.leaves_ok (Run.notifying_ok (value.trans heard)), sweepDue_single b _ _ due]
      · exact Run.leaves_blind (plain.carryOut_blind fuel signal) same
      · rw [kept, SignalLedger.scheduled_save idle, if_pos rfl]
      · rw [kept, SignalLedger.claim_saved]

/-- A signal that is put off comes to the same, by a sweep once it is due, as a signal that is posted only
then. Both ways, all that is outside in the end, be it records of signals or entities, is one function of
the ids and times that are generated. -/
theorem delayed_as_direct (plain : (b.keeping place).Plain place) (unaware : observer.Unaware place) {outside : ω}
    (idle : (place.get outside).scheduled = []) (fuel : Nat) (signal : Signal) :
    ∃ effect : Future → Except Halt Unit × ω,
      ∀ (early late : Supply) (now : UInt64) (outcome : Outcome) (middle : World ω),
        (Supply.now early).1 < signal.context.deliverAt →
        (b.keeping place).post fuel observer signal ⟨early, outside⟩ = (.ok outcome, middle) →
        signal.context.deliverAt ≤ now → signal.context.deliverAt ≤ (Supply.now late).1 →
        ((b.keeping place).sweepDue fuel now).leaves middle = effect ((b.keeping place).decided signal early).future ∧
        ((b.keeping place).post fuel observer signal).leaves ⟨late, outside⟩ =
          effect ((b.keeping place).decided signal late).future := by
  have watched := plain.monitored unaware [signal]
  have blind := take_blind plain watched fuel signal
  refine ⟨fun f => ((b.keeping place).take fuel ((b.keeping place).monitored observer [signal]) signal).leaves
    ⟨f.supply, outside⟩, ?_⟩
  intro early late now outcome middle before posted due late_due
  constructor
  · rw [sweepDue_leaves plain watched idle posted before due]
    exact Run.leaves_blind blind ⟨rfl, Supply.future_supply _⟩
  · rw [Run.leaves, post, accept_due late_due, ← Run.leaves]
    exact Run.leaves_blind blind ⟨rfl, Supply.future_supply _⟩

end Keeping

open Sample Office in
/-- A deposit is put off. When a sweep has booked it, everything is as if it had been posted only then. -/
theorem delayed_as_direct_office :
    let office := Office.bus.keeping ledger
    let start := opened .none
    let late : Supply := { start.supply with clock := fun n => if n = 0 then 9 else start.supply.clock n }
    let posted := office.post 9 .discarding Office.later start
    posted.1 = .ok (.success []) ∧
      (office.sweepDue 9 9).leaves posted.2 = (office.post 9 .discarding Office.later).leaves ⟨late, start.outside⟩ ∧
      (ledger.get (office.sweepDue 9 9 posted.2).2.outside).records.values.map (fun r => (r.signal.type, r.status)) =
        [("bank.Deposit", .ok), ("bank.Deposited", .ok)] := by
  intro office start late posted
  have done : posted.1 = .ok (.success []) := by decide +kernel
  have came : posted = (.ok (.success []), posted.2) := by rw [← done, Prod.eta]
  have plain : office.Plain ledger := by
    refine ⟨fun member => ?_, nofun⟩
    cases (bus_apart.keeping rfl).consumers member with
    | handlers set apart => exact .handlers set
    | repository r place apart => exact .repository r place
  have unaware : Observer.Unaware ledger .discarding := fun _ _ => .pure _
  have admitted : office.admits Office.later = true := by decide +kernel
  have futures : (office.decided Office.later late).future = (office.decided Office.later start.supply).future := by
    rw [decided, decided, admitted, if_pos rfl, if_pos rfl, Supply.future_now, Supply.future_now]
    simp [Future.afterTime, Supply.future, late, start, opened]
  have idle : (ledger.get start.outside).scheduled = [] := by decide +kernel
  obtain ⟨effect, same⟩ := delayed_as_direct plain unaware idle 9 Office.later
  obtain ⟨swept, direct⟩ := same start.supply late 9 _ posted.2 (by decide +kernel) came (by decide +kernel)
    (by decide +kernel)
  refine ⟨done, ?_, by decide +kernel⟩
  rw [swept, direct, futures]

end Bus

end Switchboard
