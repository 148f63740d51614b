import Switchboard.Proofs.Bus.Conduct
import Switchboard.Proofs.Bus.Handling

namespace Switchboard

/-! The life of a signal: what the calls of a bus mean for the signal of one id, from its first
save to its settlement. -/

variable {ω : Type}

/-- What happens to the signal of an id. -/
inductive Mark where
  | saved (status : SignalStatus)
  | claimed
  | handed (delivery : String × Signal)

/-- What a call means for the signal of an id. A call that fails means nothing for it. -/
def Call.mark? (id : SignalId) : Call → Option Mark
  | .save signal status _ (.ok ()) => if signal.id = id then some (.saved status) else none
  | .claim other (.ok true) => if other = id then some .claimed else none
  | .deliver consumer signal _ => if signal.id = id then some (.handed (consumer, signal)) else none
  | _ => none

def trail (id : SignalId) (calls : List Call) : List Mark := calls.filterMap (Call.mark? id)

@[simp] theorem trail_append (id : SignalId) (first last : List Call) :
    trail id (first ++ last) = trail id first ++ trail id last :=
  List.filterMap_append ..

theorem trail_saved (signal : Signal) (status : SignalStatus) (error : Option ErrorRecord) (calls : List Call) :
    trail signal.id (.save signal status error (.ok ()) :: calls) =
      .saved status :: trail signal.id calls := by
  simp [trail, Call.mark?]

theorem trail_saved_ne {signal : Signal} {id : SignalId} (other : signal.id ≠ id) (status : SignalStatus)
    (error : Option ErrorRecord) (calls : List Call) :
    trail id (.save signal status error (.ok ()) :: calls) = trail id calls := by
  simp [trail, Call.mark?, other]

theorem trail_claimed (id : SignalId) (calls : List Call) :
    trail id (.claim id (.ok true) :: calls) = .claimed :: trail id calls := by
  simp [trail, Call.mark?]

theorem trail_claimed_ne {claimed id : SignalId} (other : claimed ≠ id) (calls : List Call) :
    trail id (.claim claimed (.ok true) :: calls) = trail id calls := by
  simp [trail, Call.mark?, other]

theorem Call.write_unmarked {call : Call} {id : SignalId} (unmarked : call.mark? id = none)
    (records : SignalRecords) : call.write records id = records id := by
  cases call with
  | save signal status error answer =>
      cases answer with
      | error cause => rfl
      | ok done =>
          have other : signal.id ≠ id := by simpa [Call.mark?] using unmarked
          exact Function.update_of_ne (Ne.symm other) _ _
  | claim claimed answer =>
      rcases answer with cause | _ | _
      · rfl
      · rfl
      · have other : claimed ≠ id := by simpa [Call.mark?] using unmarked
        exact Function.update_of_ne (Ne.symm other) _ _
  | _ => rfl

theorem SignalRecords.after_untouched {calls : List Call} {id : SignalId} (untouched : trail id calls = [])
    (records : SignalRecords) : records.after calls id = records id := by
  induction calls generalizing records with
  | nil => rfl
  | cons call rest ih =>
      obtain ⟨unmarked, others⟩ := List.forall_mem_cons.mp (List.filterMap_eq_nil_iff.mp untouched)
      exact (ih (List.filterMap_eq_nil_iff.mpr others) _).trans (Call.write_unmarked unmarked records)

def Mark.handed? : Mark → Option (String × Signal)
  | .handed delivery => some delivery
  | _ => none

theorem deliveries_filter (id : SignalId) (calls : List Call) :
    (deliveries calls).filter (fun delivery => delivery.2.id = id) = (trail id calls).filterMap Mark.handed? := by
  rw [deliveries, trail, List.filter_filterMap, List.filterMap_filterMap]
  congr 1
  funext call
  cases call with
  | save signal status error answer =>
      cases answer with
      | error cause => rfl
      | ok done => by_cases same : signal.id = id <;> simp [Call.delivery?, Call.mark?, same, Mark.handed?]
  | claim claimed answer =>
      rcases answer with cause | _ | _
      · rfl
      · rfl
      · by_cases same : claimed = id <;> simp [Call.delivery?, Call.mark?, same, Mark.handed?]
  | deliver consumer signal answer =>
      by_cases same : signal.id = id <;> simp [Call.delivery?, Call.mark?, same, Mark.handed?]
  | _ => rfl

/-- A signal is handed to some of its recipients; to all of them before it is settled. -/
inductive Handling (recipients : List (String × Signal)) : List Mark → Prop where
  | begun {some : List (String × Signal)} (part : some <+: recipients) :
      Handling recipients (some.map .handed)
  | ended (outcome : Outcome) :
      Handling recipients (recipients.map .handed ++ [.saved outcome.status])

/-- All that can happen to a signal, by the status it starts from. -/
inductive Life (recipients : List (String × Signal)) : Option SignalStatus → List Mark → Prop where
  | idle (start : Option SignalStatus) : Life recipients start []
  | refused : Life recipients none [.saved .error]
  | scheduled : Life recipients none [.saved .scheduled]
  | received {handling : List Mark} (handled : Handling recipients handling) :
      Life recipients none (.saved .received :: handling)
  | postponed {handling : List Mark} (handled : Handling recipients handling) :
      Life recipients none (.saved .scheduled :: .claimed :: handling)
  | claimed {handling : List Mark} (handled : Handling recipients handling) :
      Life recipients (some .scheduled) (.claimed :: handling)

theorem Handling.deliveries_prefix {recipients : List (String × Signal)} {marks : List Mark}
    (handling : Handling recipients marks) : marks.filterMap Mark.handed? <+: recipients := by
  have handed : ∀ deliveries : List (String × Signal),
      (deliveries.map Mark.handed).filterMap Mark.handed? = deliveries := by
    intro deliveries
    rw [List.filterMap_map]
    exact List.filterMap_some
  cases handling with
  | begun part =>
      rw [handed]
      exact part
  | ended outcome =>
      rw [List.filterMap_append, handed]
      exact (List.append_nil recipients).symm ▸ List.prefix_rfl

/-- Nobody gets a signal twice. -/
theorem Life.deliveries_prefix {recipients : List (String × Signal)} {start : Option SignalStatus}
    {marks : List Mark} (life : Life recipients start marks) : marks.filterMap Mark.handed? <+: recipients := by
  cases life with
  | idle => exact List.nil_prefix
  | refused => exact List.nil_prefix
  | scheduled => exact List.nil_prefix
  | received handled => exact handled.deliveries_prefix
  | postponed handled => exact handled.deliveries_prefix
  | claimed handled => exact handled.deliveries_prefix

theorem Handling.nil (recipients : List (String × Signal)) : Handling recipients [] :=
  .begun (List.nil_prefix (l := recipients))

theorem trail_delivering {signal : Signal} {calls : List Call} (id : SignalId)
    (delivering : ∀ call ∈ calls, ∃ c answer, call = .deliver c signal answer) :
    trail id calls = if signal.id = id then (deliveries calls).map .handed else [] := by
  induction calls with
  | nil => simp [trail, deliveries]
  | cons call rest ih =>
      obtain ⟨⟨c, answer, rfl⟩, others⟩ := List.forall_mem_cons.mp delivering
      by_cases same : signal.id = id
      · simpa [trail, Call.mark?, same, deliveries, Call.delivery?] using ih others
      · simpa [trail, Call.mark?, same] using ih others

theorem newIds_answered {signal : Signal} {consumers : List (Consumer ω)} {outcomes : List Outcome}
    (lengths : outcomes.length = consumers.length) :
    newIds (answered signal consumers outcomes) = (outcomes.flatMap Outcome.followUps).map (·.id) := by
  induction consumers generalizing outcomes with
  | nil =>
      obtain rfl := List.length_eq_zero_iff.mp lengths
      rfl
  | cons c rest ih =>
      obtain ⟨outcome, others, rfl⟩ := List.exists_cons_of_length_eq_add_one lengths
      have left : others.length = rest.length := by simpa using lengths
      rw [List.flatMap_cons, List.map_append, ← ih left]
      rfl

namespace Bus

variable {b : Bus ω} {signal : Signal} {calls : List Call}

theorem Acknowledges.trail_eq {signals : List Signal} {ack : Ack} {result : Except Halt Unit}
    (told : b.Acknowledges signals ack calls result) (id : SignalId) :
    trail id calls = [] ∧ newIds calls = [] := by
  cases told <;> exact ⟨rfl, rfl⟩

theorem Processes.handling {result : Except Halt (Outcome × List Signal)}
    (processed : b.Processes signal calls result) :
    Handling (b.recipients signal) (trail signal.id calls) ∧
      (∀ id, signal.id ≠ id → trail id calls = []) ∧
      ∀ outcome followUps, result = .ok (outcome, followUps) → newIds calls = followUps.map (·.id) := by
  cases processed with
  | broken delivered =>
      refine ⟨?_, ?_, ?_⟩
      · rw [trail_delivering _ delivered.delivering, if_pos rfl]
        exact .begun delivered.delivered.1
      · intro id other
        rw [trail_delivering _ delivered.delivering, if_neg other]
      · rintro outcome followUps ⟨⟩
  | unsettled delivered merged cause =>
      refine ⟨?_, ?_, ?_⟩
      · rw [trail_append, trail_delivering _ delivered.delivering, if_pos rfl]
        exact (List.append_nil _).symm ▸ .begun delivered.delivered.1
      · intro id other
        rw [trail_append, trail_delivering _ delivered.delivering, if_neg other]
        rfl
      · rintro outcome followUps ⟨⟩
  | @settled calls outcomes outcome followUps delivered merged gathered =>
      obtain ⟨lengths, same, all⟩ := delivered.delivered.2.2 _ rfl
      refine ⟨?_, ?_, ?_⟩
      · rw [trail_append, trail_delivering _ delivered.delivering, if_pos rfl, all, trail_saved]
        exact .ended outcome
      · intro id other
        rw [trail_append, trail_delivering _ delivered.delivering, if_neg other, trail_saved_ne other]
        rfl
      · rintro outcome followUps ⟨⟩
        rw [newIds_append, same, newIds_answered lengths, ← gathered]
        exact List.append_nil _

def Lives (b : Bus ω) (id : SignalId) (start : Option SignalStatus) (marks : List Mark) : Prop :=
  ∃ signal, signal.id = id ∧ Life (b.recipients signal) start marks

theorem Lives.idle (b : Bus ω) (id : SignalId) (start : Option SignalStatus) : b.Lives id start [] :=
  ⟨⟨id, .command, "", none, .null, .ofTime 0⟩, rfl, .idle start⟩

/-- A published event is drawn before, or by what is published before it. -/
theorem Publishes.newIds_next {event : Signal} {waiting followUps : List Signal} {more : List Call}
    {outcome : Outcome} (processed : b.Processes event calls (.ok (outcome, followUps))) :
    (event :: waiting).map (·.id) ++ newIds (.save event .received none (.ok ()) :: (calls ++ more)) =
      event.id :: (waiting.map (·.id) ++ (followUps.map (·.id) ++ newIds more)) := by
  have drawn := processed.handling.2.2 outcome followUps rfl
  rw [← drawn, ← newIds_append]
  rfl

theorem Publishes.untouched {queue : List Signal} {result : Except Halt Unit}
    (published : b.Publishes queue calls result) {id : SignalId}
    (absent : id ∉ queue.map (·.id) ++ newIds calls) : trail id calls = [] := by
  induction published with
  | done => rfl
  | unfinished => rfl
  | unsaved error => rfl
  | @broken event waiting calls halt processed =>
      have other : event.id ≠ id := by
        rintro rfl
        simp at absent
      rw [trail_saved_ne other]
      exact processed.handling.2.1 id other
  | next processed later ih =>
      rw [newIds_next processed, List.mem_cons, not_or] at absent
      rw [trail_saved_ne (Ne.symm absent.1), trail_append, processed.handling.2.1 id (Ne.symm absent.1)]
      apply ih
      rw [List.map_append, List.append_assoc]
      exact absent.2

theorem CarriesOut.untouched {result : Except Halt Outcome} (carried : b.CarriesOut signal calls result)
    {id : SignalId} (absent : id ∉ signal.id :: newIds calls) : trail id calls = [] := by
  obtain ⟨other, undrawn⟩ := List.mem_cons.not.trans not_or |>.mp absent
  cases carried with
  | broken processed => exact processed.handling.2.1 id (Ne.symm other)
  | unpublished processed published =>
      rw [newIds_append, processed.handling.2.2 _ _ rfl] at undrawn
      rw [trail_append, processed.handling.2.1 id (Ne.symm other), published.untouched undrawn]
      rfl
  | published processed published =>
      rw [newIds_append, processed.handling.2.2 _ _ rfl] at undrawn
      rw [trail_append, processed.handling.2.1 id (Ne.symm other), published.untouched undrawn]
      rfl

theorem Acknowledges.saved_untouched {signals : List Signal} {ack : Ack} {result : Except Halt Unit}
    (told : b.Acknowledges signals ack calls result) (status : SignalStatus) (error : Option ErrorRecord)
    {id : SignalId} (other : signal.id ≠ id) :
    trail id (.save signal status error (.ok ()) :: calls) = [] := by
  rw [trail_saved_ne other, (told.trail_eq id).1]

theorem Accepts.untouched {signals : List Signal} {now : UInt64} {result : Except Halt Outcome}
    (accepted : b.Accepts signals now signal calls result) {id : SignalId}
    (absent : id ∉ signal.id :: newIds calls) : trail id calls = [] := by
  have other : signal.id ≠ id := Ne.symm (List.ne_of_not_mem_cons absent)
  cases accepted with
  | unsupported unknown told => exact (told.trail_eq id).1
  | unsaved known admitted cause => rfl
  | refused known found told => exact told.saved_untouched _ _ other
  | scheduled known sound delayed told => exact told.saved_untouched _ _ other
  | untold known sound due told => exact told.saved_untouched _ _ other
  | @carried message told more _ known sound due acknowledged carried =>
      rw [trail_saved_ne other, trail_append, (acknowledged.trail_eq id).1]
      apply carried.untouched
      change id ∉ signal.id :: newIds (told ++ more) at absent
      rwa [newIds_append, (acknowledged.trail_eq id).2] at absent

theorem Publishes.lives {queue : List Signal} {result : Except Halt Unit}
    (published : b.Publishes queue calls result) (distinct : (queue.map (·.id) ++ newIds calls).Nodup)
    (id : SignalId) : b.Lives id none (trail id calls) := by
  induction published with
  | done => exact .idle b id none
  | unfinished => exact .idle b id none
  | unsaved error => exact .idle b id none
  | @broken event waiting calls halt processed =>
      obtain ⟨handling, others, -⟩ := processed.handling
      by_cases same : event.id = id
      · subst same
        rw [trail_saved]
        exact ⟨event, rfl, .received handling⟩
      · rw [trail_saved_ne same, others id same]
        exact .idle b id none
  | @next event waiting followUps calls more outcome result processed later ih =>
      obtain ⟨handling, others, -⟩ := processed.handling
      -- what the event has brought up was drawn while it was processed, and waits in the queue now
      rw [newIds_next processed] at distinct
      obtain ⟨fresh, remaining⟩ := List.nodup_cons.mp distinct
      rw [← List.append_assoc, ← List.map_append] at fresh remaining
      by_cases same : event.id = id
      · subst same
        rw [trail_saved, trail_append, later.untouched fresh, List.append_nil]
        exact ⟨event, rfl, .received handling⟩
      · rw [trail_saved_ne same, trail_append, others id same]
        exact ih remaining

theorem CarriesOut.lives {result : Except Halt Outcome} (carried : b.CarriesOut signal calls result)
    (distinct : (signal.id :: newIds calls).Nodup) :
    Handling (b.recipients signal) (trail signal.id calls) ∧
      ∀ id, signal.id ≠ id → b.Lives id none (trail id calls) := by
  have followed : ∀ {first more : List Call} {outcome : Outcome} {followUps : List Signal}
      {published : Except Halt Unit}, b.Processes signal first (.ok (outcome, followUps)) →
      b.Publishes followUps more published → (signal.id :: newIds (first ++ more)).Nodup →
      Handling (b.recipients signal) (trail signal.id (first ++ more)) ∧
        ∀ id, signal.id ≠ id → b.Lives id none (trail id (first ++ more)) := by
    intro first more outcome followUps published processed publishes distinct
    obtain ⟨handling, others, gathered⟩ := processed.handling
    rw [newIds_append, gathered outcome followUps rfl] at distinct
    obtain ⟨apart, remaining⟩ := List.nodup_cons.mp distinct
    constructor
    · rw [trail_append, publishes.untouched apart, List.append_nil]
      exact handling
    · intro id other
      rw [trail_append, others id other]
      exact publishes.lives remaining id
  cases carried with
  | broken processed =>
      obtain ⟨handling, others, -⟩ := processed.handling
      refine ⟨handling, ?_⟩
      intro id other
      rw [others id other]
      exact .idle b id none
  | unpublished processed published => exact followed processed published distinct
  | published processed published => exact followed processed published distinct

/-- Of a signal that is saved and acknowledged, and no more, only the save is left behind. -/
theorem Acknowledges.saved_lives {signals : List Signal} {ack : Ack} {result : Except Halt Unit}
    {status : SignalStatus} (told : b.Acknowledges signals ack calls result) (error : Option ErrorRecord)
    (life : Life (b.recipients signal) none [.saved status]) (id : SignalId) :
    b.Lives id none (trail id (.save signal status error (.ok ()) :: calls)) := by
  by_cases same : signal.id = id
  · subst same
    rw [trail_saved, (told.trail_eq signal.id).1]
    exact ⟨signal, rfl, life⟩
  · rw [told.saved_untouched status error same]
    exact .idle b id none

theorem Accepts.lives {signals : List Signal} {now : UInt64} {result : Except Halt Outcome}
    (accepted : b.Accepts signals now signal calls result) (distinct : (signal.id :: newIds calls).Nodup)
    (id : SignalId) : b.Lives id none (trail id calls) := by
  cases accepted with
  | unsupported unknown told =>
      rw [(told.trail_eq id).1]
      exact .idle b id none
  | unsaved known admitted cause => exact .idle b id none
  | refused known found told => exact told.saved_lives _ .refused id
  | scheduled known sound delayed told => exact told.saved_lives _ .scheduled id
  | untold known sound due told => exact told.saved_lives _ (.received (.nil _)) id
  | @carried message told more _ known sound due acknowledged carried =>
      have drawn : newIds (.save signal .received none (.ok ()) :: (told ++ more)) = newIds more := by
        change newIds (told ++ more) = newIds more
        rw [newIds_append, (acknowledged.trail_eq id).2, List.nil_append]
      rw [drawn] at distinct
      obtain ⟨handling, others⟩ := carried.lives distinct
      by_cases same : signal.id = id
      · subst same
        rw [trail_saved, trail_append, (acknowledged.trail_eq signal.id).1, List.nil_append]
        exact ⟨signal, rfl, .received handling⟩
      · rw [trail_saved_ne same, trail_append, (acknowledged.trail_eq id).1, List.nil_append]
        exact others id same

end Bus

end Switchboard
