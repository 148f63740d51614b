import Mathlib.Data.List.Chain
import Switchboard.Proofs.Bus.Life

namespace Switchboard

/-! The steps that the status of a signal may take. What happens in the life of a signal takes
no others. -/

/-- From one status to the next; a signal without a record has none. -/
inductive SignalStatus.Step : Option SignalStatus → Option SignalStatus → Prop where
  | refuse : Step none (some .error)
  | schedule : Step none (some .scheduled)
  | receive : Step none (some .received)
  | claim : Step (some .scheduled) (some .received)
  | succeed : Step (some .received) (some .ok)
  | reject : Step (some .received) (some .rejected)
  | fail : Step (some .received) (some .error)

namespace SignalStatus

variable {statuses before after : List (Option SignalStatus)} {status : Option SignalStatus}

/-- Whatever no step undoes stays from there on. -/
theorem kept_along (holds : Option SignalStatus → Prop)
    (chain : (before ++ status :: after).IsChain fun first next => first = next ∨ Step first next)
    (kept : ∀ {first next}, holds first → Step first next → holds next) (now : holds status) :
    ∀ later ∈ after, holds later := by
  have remaining := chain.right_of_append
  clear chain
  induction after generalizing status with
  | nil => simp
  | cons next rest ih =>
      obtain ⟨step, others⟩ := List.isChain_cons_cons.mp remaining
      have then' : holds next := by
        rcases step with rfl | step
        · exact now
        · exact kept now step
      exact List.forall_mem_cons.mpr ⟨then', ih then' others⟩

theorem final {settled : SignalStatus} (done : settled = .ok ∨ settled = .rejected ∨ settled = .error)
    (chain : (before ++ some settled :: after).IsChain fun first next => first = next ∨ Step first next) :
    ∀ later ∈ after, later = some settled := by
  apply kept_along (· = some settled) chain
  · rintro first next rfl step
    rcases done with rfl | rfl | rfl <;> cases step
  · rfl

theorem unscheduled {left : SignalStatus} (other : left ≠ .scheduled)
    (chain : (before ++ some left :: after).IsChain fun first next => first = next ∨ Step first next) :
    some .scheduled ∉ after := by
  intro again
  have kept := kept_along (fun status => status ≠ none ∧ status ≠ some .scheduled) chain
    (by
      rintro first next ⟨recorded, -⟩ step
      cases step <;> simp_all)
    ⟨by simp, by simpa using other⟩ _ again
  exact kept.2 rfl

end SignalStatus

def Mark.move (status : Option SignalStatus) : Mark → Option SignalStatus
  | .saved next => some next
  | .claimed => status.map fun _ => .received
  | .handed _ => status

def standing (start : Option SignalStatus) (marks : List Mark) : Option SignalStatus := marks.foldl Mark.move start

/-- Every mark either leaves the status or takes a step that it may take. -/
def Lawful : Option SignalStatus → List Mark → Prop
  | _, [] => True
  | status, mark :: rest =>
      (status = mark.move status ∨ SignalStatus.Step status (mark.move status)) ∧
        Lawful (mark.move status) rest

theorem lawful_handed {status : Option SignalStatus} {deliveries : List (String × Signal)} {rest : List Mark}
    (lawful : Lawful status rest) : Lawful status (deliveries.map .handed ++ rest) := by
  induction deliveries with
  | nil => exact lawful
  | cons delivery others ih => exact ⟨.inl rfl, ih⟩

variable {recipients : List (String × Signal)} {marks : List Mark} {start : Option SignalStatus}

theorem Handling.lawful (handling : Handling recipients marks) : Lawful (some .received) marks := by
  cases handling with
  | begun part =>
      rw [← List.append_nil (List.map _ _)]
      exact lawful_handed trivial
  | ended outcome =>
      apply lawful_handed
      refine ⟨.inr ?_, trivial⟩
      cases outcome with
      | success events => exact .succeed
      | rejection event => exact .reject
      | failure error => exact .fail

theorem Life.lawful (life : Life recipients start marks) : Lawful start marks := by
  cases life with
  | idle => trivial
  | refused => exact ⟨.inr .refuse, trivial⟩
  | scheduled => exact ⟨.inr .schedule, trivial⟩
  | received handled => exact ⟨.inr .receive, handled.lawful⟩
  | postponed handled => exact ⟨.inr .schedule, .inr .claim, handled.lawful⟩
  | claimed handled => exact ⟨.inr .claim, handled.lawful⟩

theorem Handling.standing_ne (handling : Handling recipients marks) :
    standing (some .received) marks ≠ some .scheduled := by
  have handed : ∀ deliveries : List (String × Signal),
      standing (some .received) (deliveries.map .handed) = some .received := by
    intro deliveries
    induction deliveries with
    | nil => rfl
    | cons delivery others ih => exact ih
  cases handling with
  | begun part => simp [handed]
  | ended outcome =>
      rw [standing, List.foldl_append]
      cases outcome <;> simp [Mark.move, Outcome.status]

/-- What is scheduled can be claimed and handled. -/
theorem Life.claim {handling : List Mark} {signal : List (String × Signal)}
    (life : Life recipients start marks) (scheduled : standing start marks = some .scheduled)
    (handled : Handling signal handling) : Life signal start (marks ++ .claimed :: handling) := by
  cases life with
  | idle =>
      obtain rfl : start = some .scheduled := scheduled
      exact .claimed handled
  | refused => cases scheduled
  | scheduled => exact .postponed handled
  | received handled => exact absurd scheduled handled.standing_ne
  | postponed handled => exact absurd scheduled handled.standing_ne
  | claimed handled => exact absurd scheduled handled.standing_ne

theorem Call.write_marked {call : Call} {id : SignalId} {mark : Mark} (marked : call.mark? id = some mark)
    (records : SignalRecords) :
    (call.write records id).map (·.status) = mark.move ((records id).map (·.status)) := by
  cases call with
  | save signal status error answer =>
      cases answer with
      | error cause => cases marked
      | ok done =>
          obtain ⟨same, rfl⟩ : signal.id = id ∧ Mark.saved status = mark := by
            simpa [Call.mark?] using marked
          subst same
          simp [Call.write, Mark.move]
  | claim claimed answer =>
      rcases answer with cause | _ | _
      · cases marked
      · cases marked
      · obtain ⟨same, rfl⟩ : claimed = id ∧ Mark.claimed = mark := by simpa [Call.mark?] using marked
        subst same
        cases found : records claimed <;> simp [Call.write, Mark.move, found]
  | deliver consumer signal answer =>
      obtain ⟨-, rfl⟩ : signal.id = id ∧ Mark.handed (consumer, signal) = mark := by
        simpa [Call.mark?] using marked
      rfl
  | _ => cases marked

namespace SignalRecords

/-- The statuses of a signal, from one call to the next. -/
def statuses (records : SignalRecords) (calls : List Call) (id : SignalId) : List (Option SignalStatus) :=
  (calls.scanl Call.write records).map fun records => (records id).map (·.status)

theorem statuses_nil (records : SignalRecords) (id : SignalId) :
    records.statuses [] id = [(records id).map (·.status)] := by
  simp [statuses]

theorem statuses_cons (records : SignalRecords) (call : Call) (rest : List Call) (id : SignalId) :
    records.statuses (call :: rest) id =
      (records id).map (·.status) :: (call.write records).statuses rest id := by
  simp [statuses]

theorem after_status (records : SignalRecords) (calls : List Call) (id : SignalId) :
    (records.after calls id).map (·.status) = standing ((records id).map (·.status)) (trail id calls) := by
  induction calls generalizing records with
  | nil => rfl
  | cons call rest ih =>
      have later := ih (call.write records)
      cases marked : call.mark? id with
      | none =>
          rw [Call.write_unmarked marked] at later
          rw [trail, List.filterMap_cons_none marked]
          exact later
      | some mark =>
          rw [Call.write_marked marked] at later
          rw [trail, List.filterMap_cons_some marked]
          exact later

theorem statuses_chain {calls : List Call} {id : SignalId} {records : SignalRecords}
    (lawful : Lawful ((records id).map (·.status)) (trail id calls)) :
    (records.statuses calls id).IsChain fun before after => before = after ∨ SignalStatus.Step before after := by
  induction calls generalizing records with
  | nil =>
      rw [statuses_nil]
      exact .singleton _
  | cons call rest ih =>
      -- the chain of the rest begins with the status that this call leaves
      have begun : ∃ others, (call.write records).statuses rest id =
          (call.write records id).map (·.status) :: others := by
        cases rest with
        | nil => exact ⟨_, statuses_nil _ id⟩
        | cons next rest => exact ⟨_, statuses_cons _ next rest id⟩
      obtain ⟨others, begun⟩ := begun
      rw [statuses_cons]
      cases marked : call.mark? id with
      | none =>
          rw [trail, List.filterMap_cons_none marked] at lawful
          have same := Call.write_unmarked marked records
          have later := @ih (call.write records) (by rw [same]; exact lawful)
          rw [begun] at later ⊢
          exact List.isChain_cons_cons.mpr ⟨.inl (by rw [same]), later⟩
      | some mark =>
          rw [trail, List.filterMap_cons_some marked] at lawful
          have moved := Call.write_marked marked records
          have later := @ih (call.write records) (by rw [moved]; exact lawful.2)
          rw [begun] at later ⊢
          exact List.isChain_cons_cons.mpr ⟨by rw [moved]; exact lawful.1, later⟩

end SignalRecords

end Switchboard
