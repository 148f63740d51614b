import Switchboard.Proofs.Bus.Life
import Switchboard.Proofs.Sample.Office

namespace Switchboard

/-! What a post leaves behind. Whatever way a signal takes, its record tells what the post has
answered. -/

variable {ω : Type}

namespace Outcome

theorem merge_status (outcomes : List Outcome) :
    (merge outcomes).status =
      if outcomes.any isFailure then .error
      else if outcomes.any isRejection then .rejected
      else .ok := by
  unfold merge
  cases failed : outcomes.find? isFailure with
  | some outcome =>
      have failure := List.find?_some failed
      have any : outcomes.any isFailure = true :=
        List.any_eq_true.mpr ⟨outcome, List.mem_of_find?_eq_some failed, failure⟩
      rw [if_pos any]
      cases outcome <;> simp_all [isFailure, status]
  | none =>
      have none : outcomes.any isFailure = false := by simpa using failed
      cases rejected : outcomes.find? isRejection with
      | some outcome =>
          have rejection := List.find?_some rejected
          have any : outcomes.any isRejection = true :=
            List.any_eq_true.mpr ⟨outcome, List.mem_of_find?_eq_some rejected, rejection⟩
          rw [none, any]
          cases outcome <;> simp_all [isRejection, status]
      | none =>
          have none' : outcomes.any isRejection = false := by simpa using rejected
          rw [none, none']
          rfl

theorem merge_single (outcome : Outcome) : merge [outcome] = outcome := by
  cases outcome <;> simp [merge, isFailure, isRejection, events]

end Outcome

namespace Bus

/-- What makes a signal of a supported type invalid. -/
def Invalid (b : Bus ω) (signal : Signal) (message : MessageClass) : Prop :=
  b.multitenant = true ∧ signal.tenant = none ∨
    signal.kind = .command ∧ (signal.target = none ∨ signal.target = some "") ∨
    message.check signal.payload ≠ []

theorem defect?_iff (b : Bus ω) (signal : Signal) (message : MessageClass) :
    (b.defect? signal message).isSome ↔ b.Invalid signal message := by
  have homeless : (signal.target.getD "").isEmpty = true ↔ signal.target = none ∨ signal.target = some "" := by
    cases signal.target <;> simp
  unfold defect? Invalid
  by_cases tenantless : b.multitenant = true ∧ signal.tenant.isNone
  · rw [if_pos tenantless]
    simp only [Option.isSome_some, true_iff]
    exact .inl ⟨tenantless.1, Option.isNone_iff_eq_none.mp tenantless.2⟩
  · rw [if_neg tenantless]
    rw [Option.isNone_iff_eq_none] at tenantless
    simp only [homeless, tenantless, false_or]
    by_cases astray : signal.kind = .command ∧ (signal.target = none ∨ signal.target = some "")
    · simp [astray]
    · by_cases clean : message.check signal.payload = [] <;> simp [astray, clean]

theorem defect?_eq_none {b : Bus ω} {signal : Signal} {message : MessageClass} (valid : ¬ b.Invalid signal message) :
    b.defect? signal message = none :=
  Option.not_isSome_iff_eq_none.mp fun found => valid ((b.defect?_iff signal message).mp found)

theorem Acknowledges.after_eq {b : Bus ω} {signals : List Signal} {ack : Ack} {calls : List Call}
    {result : Except Halt Unit} (told : b.Acknowledges signals ack calls result) (records : SignalRecords) :
    records.after calls = records := by
  funext id
  exact SignalRecords.after_untouched (told.trail_eq id).1 records

theorem settledOutcome_eq_merge {signal : Signal} {outcomes : List Outcome}
    (taken : signal.kind = .event ∨ outcomes ≠ []) : settledOutcome signal outcomes = .merge outcomes := by
  unfold settledOutcome
  rw [if_neg]
  rintro ⟨nobody, command⟩
  rcases taken with event | some
  · rw [event] at command
    cases command
  · exact some (List.isEmpty_iff.mp nobody)

theorem settledOutcome_single (signal : Signal) (single : Outcome) : settledOutcome signal [single] = single := by
  rw [settledOutcome_eq_merge (.inr (by simp)), Outcome.merge_single]

theorem settledError_tells (outcome : Outcome) :
    match outcome with
    | .success _ => settledError outcome = none
    | .failure record => settledError outcome = some record
    | .rejection event => ∃ record, settledError outcome = some record ∧ record.type = event.type ∧
        record.attributes.entries = [("rejection", event.payload)] := by
  cases outcome with
  | success events => rfl
  | failure record => rfl
  | rejection event => exact ⟨_, rfl, rfl, rfl⟩

/-- The record of a signal that was handled, as long as what came of it has other ids. -/
theorem handled_record {b : Bus ω} {signal : Signal} {outcomes : List Outcome} {published : List Call}
    {result : Except Halt Unit} (publishes : b.Publishes (outcomes.flatMap Outcome.followUps) published result)
    (lengths : outcomes.length = ((b.registry signal.kind).consumers signal.type).length)
    (other : signal.id ∉ newIds (b.handled signal outcomes ++ published)) (records : SignalRecords) :
    records.after (b.handled signal outcomes ++ published) signal.id =
      some ⟨signal, (settledOutcome signal outcomes).status, settledError (settledOutcome signal outcomes)⟩ := by
  have gathered : newIds (b.handled signal outcomes) = (outcomes.flatMap Outcome.followUps).map (·.id) := by
    rw [handled, newIds_append, newIds_answered lengths]
    exact List.append_nil _
  rw [newIds_append, gathered] at other
  rw [SignalRecords.after_append, SignalRecords.after_untouched (publishes.untouched other), handled,
    SignalRecords.after_append]
  exact Function.update_self ..

/-- When a post comes to an outcome, the record of its signal agrees with that. -/
theorem outcome_recorded {b : Bus ω} {view : b.store.View} {observer : Observer ω} (apart : b.Apart view)
    (discreet : observer.Apart view) (fuel : Nat) (signal : Signal) (w : World ω)
    {outcome : Outcome} {after : World ω} (posted : b.post fuel observer signal w = (.ok outcome, after)) :
    ∃ calls,
      b.recorded.post fuel observer.recorded signal (w.recorded []) = (.ok outcome, after.recorded calls) ∧
      (∀ id, id ≠ signal.id →
        (∀ n, w.supply.idsDrawn ≤ n → n < after.supply.idsDrawn → w.supply.ids n ≠ id) →
        view.record after.outside id = view.record w.outside id) ∧
      ((b.registry signal.kind).class? signal.type = none →
        outcome = .failure (unsupportedRecord signal) ∧ deliveries calls = [] ∧
          view.record after.outside = view.record w.outside) ∧
      ∀ message, (b.registry signal.kind).class? signal.type = some message →
        (b.Invalid signal message → ∃ error, outcome = .failure error ∧ deliveries calls = [] ∧
          view.record after.outside =
            Function.update (view.record w.outside) signal.id (some ⟨signal, .error, some error⟩)) ∧
        (¬ b.Invalid signal message → w.supply.clock w.supply.readings < signal.context.deliverAt →
          outcome = .success [] ∧ deliveries calls = [] ∧
          view.record after.outside =
            Function.update (view.record w.outside) signal.id (some ⟨signal, .scheduled, none⟩)) ∧
        (¬ b.Invalid signal message → signal.context.deliverAt ≤ w.supply.clock w.supply.readings →
          (∀ n, w.supply.idsDrawn ≤ n → n < after.supply.idsDrawn → w.supply.ids n ≠ signal.id) →
          ∃ told outcomes published error,
            calls = .save signal .received none (.ok ()) ::
              (told ++ (b.handled signal outcomes ++ published)) ∧
            deliveries told = [] ∧ deliveries (b.handled signal outcomes) = b.recipients signal ∧
            outcomes.length = (b.recipients signal).length ∧
            (∀ single, outcomes = [single] → outcome = single) ∧
            (signal.kind = .event ∨ outcomes ≠ [] → outcome.status =
              if outcomes.any Outcome.isFailure then .error
              else if outcomes.any Outcome.isRejection then .rejected
              else .ok) ∧
            view.record after.outside signal.id = some ⟨signal, outcome.status, error⟩ ∧
            match outcome with
            | .success _ => error = none
            | .failure record => error = some record
            | .rejection event => ∃ record, error = some record ∧ record.type = event.type ∧
                record.attributes.entries = [("rejection", event.payload)]) := by
  obtain ⟨calls, accepts, steps, same⟩ := post_traced (b := b) fuel observer signal w
  rw [posted] at accepts steps same
  have progress := steps.progress apart discreet
  have records : view.record after.outside = SignalRecords.after (view.record w.outside) calls := progress.records
  refine ⟨calls, same [], ?_, ?_, ?_⟩
  · intro id other undrawn
    rw [records]
    apply SignalRecords.after_untouched
    apply accepts.untouched
    intro among
    rcases List.mem_cons.mp among with equal | drawn
    · exact other equal
    · obtain ⟨n, later, before, equal⟩ := progress.draws.mem drawn
      exact undrawn n later before equal.symm
  · intro unknown
    obtain ⟨rfl, acknowledged⟩ := accepts.accepted.of_unknown unknown
    exact ⟨rfl, acknowledged.deliveries_eq, records.trans (acknowledged.after_eq _)⟩
  · intro message known
    refine ⟨?_, ?_, ?_⟩
    · intro invalid
      obtain ⟨defect, found⟩ := Option.isSome_iff_exists.mp ((b.defect?_iff signal message).mpr invalid)
      obtain ⟨rfl, told, rfl, acknowledged⟩ := accepts.accepted.of_defect known found
      exact ⟨_, rfl, acknowledged.deliveries_eq, records.trans (acknowledged.after_eq _)⟩
    · intro valid early
      have delayed : signal.context.isDelayed (Supply.now w.supply).1 = true := decide_eq_true early
      obtain ⟨rfl, told, rfl, acknowledged⟩ := accepts.accepted.of_delayed known (defect?_eq_none valid) delayed
      exact ⟨rfl, acknowledged.deliveries_eq, records.trans (acknowledged.after_eq _)⟩
    · intro valid late unused
      have due : signal.context.isDelayed (Supply.now w.supply).1 = false :=
        decide_eq_false (UInt64.not_lt.mpr late)
      obtain ⟨told, outcomes, published, rfl, rfl, acknowledged, lengths, publishes⟩ :=
        accepts.accepted.of_due known (defect?_eq_none valid) due
      -- what is published later could overwrite the record only under the same id
      have undrawn : signal.id ∉ newIds (b.handled signal outcomes ++ published) := by
        intro among
        have drawn : signal.id ∈ newIds (.save signal .received none (.ok ()) ::
            (told ++ (b.handled signal outcomes ++ published))) := by
          change signal.id ∈ newIds (told ++ _)
          rw [newIds_append]
          exact List.mem_append_right _ among
        obtain ⟨n, later, before, equal⟩ := progress.draws.mem drawn
        exact unused n later before equal.symm
      refine ⟨told, outcomes, published, settledError (settledOutcome signal outcomes), rfl,
        acknowledged.deliveries_eq, deliveries_handled lengths, ?_, ?_, ?_, ?_, settledError_tells _⟩
      · rw [recipients, List.length_map, lengths]
      · rintro single rfl
        exact settledOutcome_single signal single
      · intro taken
        rw [settledOutcome_eq_merge taken, Outcome.merge_status]
      · rw [records]
        change SignalRecords.after _ (told ++ _) signal.id = _
        rw [SignalRecords.after_append]
        exact handled_record publishes lengths undrawn _

open Sample Office in
/-- A deposit is booked, noted by the auditor, and recorded as done. -/
theorem outcome_recorded_office :
    let deposit := posted 1 0 (Branch.deposit "a")
    let run := bus.post 9 .discarding deposit (opened .none)
    (∃ event, run.1 = .ok (.success [event])) ∧
      Office.view.record run.2.outside deposit.id = some ⟨deposit, .ok, none⟩ := by
  intro deposit run
  have booked : (run.1.toOption.map fun outcome => outcome.events.length) = some 1 := by decide +kernel
  have admitted : ((bus.registry .command).class? "bank.Deposit").map
      (fun message => (bus.defect? deposit message).isNone) = some true := by decide +kernel
  have drawn : run.2.supply.idsDrawn = 1 := by decide +kernel
  obtain ⟨message, known, sound⟩ := Option.map_eq_some_iff.mp admitted
  have valid : ¬ bus.Invalid deposit message := by
    rw [← defect?_iff, Option.isNone_iff_eq_none.mp sound]
    exact Bool.false_ne_true
  rcases came : run with ⟨halt | outcome, after⟩
  · rw [came] at booked
    cases booked
  · rw [came] at booked drawn
    have unused : ∀ n, (opened .none).supply.idsDrawn ≤ n → n < after.supply.idsDrawn →
        (opened .none).supply.ids n ≠ deposit.id := by
      intro n _ below
      have first : n = 0 := by
        change after.supply.idsDrawn = 1 at drawn
        omega
      subst first
      decide +kernel
    obtain ⟨calls, -, -, -, ways⟩ :=
      outcome_recorded bus_apart discarding_apart 9 deposit (opened .none) came
    obtain ⟨told, outcomes, published, error, -, -, -, -, -, -, recorded, tells⟩ :=
      (ways message known).2.2 valid (by decide +kernel) unused
    cases outcome with
    | success events =>
        obtain ⟨event, rfl⟩ := List.length_eq_one_iff.mp (by simpa [Except.toOption] using booked)
        refine ⟨⟨event, rfl⟩, ?_⟩
        rw [recorded, tells]
        rfl
    | failure error => simp [Except.toOption, Outcome.events] at booked
    | rejection event => simp [Except.toOption, Outcome.events] at booked

end Bus

end Switchboard
