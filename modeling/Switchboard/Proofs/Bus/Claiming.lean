import Switchboard.Proofs.Bus.Handling
import Switchboard.Proofs.Bus.Legality

namespace Switchboard

/-! Claims of scheduled signals: what a store grants, and what a bus does about it. -/

variable {ω : Type}

def Call.claimed? : Call → Option SignalId
  | .claim id (.ok true) => some id
  | _ => none

def Call.scheduled? : Call → Option SignalId
  | .save signal .scheduled _ (.ok ()) => some signal.id
  | _ => none

def Call.received? : Call → Option SignalId
  | .save signal .received _ (.ok ()) => some signal.id
  | _ => none

/-- The ids that are claimed, once for every claim that succeeds. -/
def claimedIds (calls : List Call) : List SignalId := calls.filterMap Call.claimed?

def scheduledIds (calls : List Call) : List SignalId := calls.filterMap Call.scheduled?

def receivedIds (calls : List Call) : List SignalId := calls.filterMap Call.received?

theorem claimedIds_append (first last : List Call) :
    claimedIds (first ++ last) = claimedIds first ++ claimedIds last :=
  List.filterMap_append ..

theorem scheduledIds_append (first last : List Call) :
    scheduledIds (first ++ last) = scheduledIds first ++ scheduledIds last :=
  List.filterMap_append ..

section Last

def Mark.stored : Mark → Bool
  | .handed _ => false
  | _ => true

/-- The last save or claim of an id. -/
def lastStored (id : SignalId) (calls : List Call) : Option Mark :=
  ((trail id calls).filter Mark.stored).getLast?

theorem standing_scheduled {start : Option SignalStatus} (unscheduled : start ≠ some .scheduled)
    (marks : List Mark) :
    standing start marks = some .scheduled ↔
      (marks.filter Mark.stored).getLast? = some (.saved .scheduled) := by
  -- from the end: the last mark decides both sides, unless the signal was only handed on
  induction marks using List.reverseRecOn with
  | nil => simpa [standing] using unscheduled
  | append_singleton before mark ih =>
      rw [standing, List.foldl_append, List.filter_append, List.foldl_cons, List.foldl_nil, ← standing]
      cases mark with
      | saved status => simp [Mark.move, Mark.stored]
      | claimed => simp [Mark.move, Mark.stored]
      | handed delivery => simpa [Mark.move, Mark.stored] using ih

/-- A ledger that was empty grants a claim if and only if the last that happened to the id is that
it was saved as scheduled. -/
theorem SignalLedger.claim_granted {place : Place ω SignalLedger} {start : ω} (new : place.get start = .empty)
    {before after : List Call} {id : SignalId} {answer : Except StorageError Bool}
    (answers : (store place).Answers start (before ++ .claim id answer :: after)) :
    ∃ granted, answer = .ok granted ∧ (granted = true ↔ lastStored id before = some (.saved .scheduled)) := by
  obtain ⟨middle, records, -, same, -⟩ := (view place).answered answers
  have answered : Except.ok ((place.get middle).claim id).1 = answer := by
    simpa [SignalStore.reply, store, Place.within] using same
  refine ⟨_, answered.symm, ?_⟩
  calc ((place.get middle).claim id).1 = true
    _ ↔ ((view place).record middle id).map (·.status) = some .scheduled := claim_iff ..
    _ ↔ standing none (trail id before) = some .scheduled := by
        rw [records, SignalRecords.after_status, view_new new, Option.map_none]
    _ ↔ lastStored id before = some (.saved .scheduled) := standing_scheduled (by simp) _

end Last

section Counting

/-- One if a signal with that record waits to be claimed. -/
def waiting (record : Option SignalRecord) : Nat := if record.map (·.status) = some .scheduled then 1 else 0

theorem waiting_le (record : Option SignalRecord) : waiting record ≤ 1 := by
  unfold waiting
  split <;> omega

/-- A call that claims a signal takes it from those that wait, and only a call that schedules a
signal puts it there. -/
theorem Call.count_claimed {records : SignalRecords} {call : Call} (fits : call.Fits records) (id : SignalId) :
    (claimedIds [call]).count id + waiting (call.write records id) ≤
      waiting (records id) + (scheduledIds [call]).count id := by
  cases call with
  | save signal status error answer =>
      have unclaimed : claimedIds [.save signal status error answer] = [] := rfl
      rw [unclaimed, List.count_nil, Nat.zero_add]
      rcases answer with cause | done
      · exact Nat.le_add_right ..
      · by_cases same : signal.id = id
        · subst same
          by_cases scheduled : status = .scheduled
          · subst scheduled
            have counted : (scheduledIds [.save signal .scheduled error (.ok done)]).count signal.id = 1 :=
              List.count_singleton_self
            rw [counted]
            exact (waiting_le _).trans (Nat.le_add_left ..)
          · have settled : waiting ((Call.save signal status error (.ok done)).write records signal.id) = 0 := by
              simp [Call.write, waiting, scheduled]
            rw [settled]
            exact Nat.zero_le _
        · have kept : (Call.save signal status error (.ok done)).write records id = records id :=
            Function.update_of_ne (Ne.symm same) _ _
          rw [kept]
          exact Nat.le_add_right ..
  | claim claimed answer =>
      rcases answer with cause | _ | _
      · exact Nat.le_of_eq (Nat.add_comm ..)
      · exact Nat.le_of_eq (Nat.add_comm ..)
      · by_cases same : claimed = id
        · subst same
          -- the claim fits, so the signal waited for it
          have counted : (claimedIds [.claim claimed (.ok true)]).count claimed = 1 := List.count_singleton_self
          have before : waiting (records claimed) = 1 := if_pos fits
          have after : waiting ((Call.claim claimed (.ok true)).write records claimed) = 0 := by
            cases found : records claimed <;> simp [Call.write, waiting, found]
          rw [counted, before, after]
          exact Nat.le_add_right ..
        · have counted : (claimedIds [.claim claimed (.ok true)]).count id = 0 := List.count_cons_of_ne same
          have kept : (Call.claim claimed (.ok true)).write records id = records id :=
            Function.update_of_ne (Ne.symm same) _ _
          rw [counted, kept, Nat.zero_add]
          exact Nat.le_add_right ..
  | _ => exact Nat.le_of_eq (Nat.add_comm ..)

/-- Over any calls, a signal is claimed no more often than it is scheduled. -/
theorem count_claimedIds {records : SignalRecords} {calls : List Call} (served : records.Serve calls)
    (id : SignalId) :
    (claimedIds calls).count id + waiting (records.after calls id) ≤
      waiting (records id) + (scheduledIds calls).count id := by
  induction calls generalizing records with
  | nil => simp [claimedIds, scheduledIds, SignalRecords.after]
  | cons call rest ih =>
      have here := Call.count_claimed served.1 id
      have later := ih served.2
      rw [← List.singleton_append, claimedIds_append, scheduledIds_append, List.count_append, List.count_append,
        SignalRecords.after_append]
      change _ + waiting (SignalRecords.after (call.write records) rest id) ≤ _
      omega

end Counting

section Warrants

/-- A signal may be delivered once it was claimed or saved as received. -/
def Call.warrant? (call : Call) : Option SignalId := call.claimed?.or call.received?

def warrantedIds (calls : List Call) : List SignalId := calls.filterMap Call.warrant?

theorem mem_warrantedIds {id : SignalId} {calls : List Call} (among : id ∈ warrantedIds calls) :
    id ∈ claimedIds calls ∨ id ∈ receivedIds calls := by
  obtain ⟨call, member, warrant⟩ := List.mem_filterMap.mp among
  rcases Option.or_eq_some_iff.mp warrant with claimed | ⟨-, received⟩
  · exact .inl (List.mem_filterMap.mpr ⟨call, member, claimed⟩)
  · exact .inr (List.mem_filterMap.mpr ⟨call, member, received⟩)

/-- Every delivery is of a signal whose id was known, or had its warrant before. -/
def Warranted : List SignalId → List Call → Prop
  | _, [] => True
  | known, call :: rest =>
      (∀ delivery, call.delivery? = some delivery → delivery.2.id ∈ known) ∧
        Warranted (known ++ call.warrant?.toList) rest

theorem warranted_append {known : List SignalId} {first last : List Call} :
    Warranted known (first ++ last) ↔
      Warranted known first ∧ Warranted (known ++ warrantedIds first) last := by
  induction first generalizing known with
  | nil => simp [Warranted, warrantedIds]
  | cons call rest ih =>
      have warrants : warrantedIds (call :: rest) = call.warrant?.toList ++ warrantedIds rest := by
        cases warrant : call.warrant? <;> simp [warrantedIds, warrant]
      rw [List.cons_append, Warranted, Warranted, ih, warrants, and_assoc, List.append_assoc]

theorem warranted_cons {known : List SignalId} {call : Call} {rest : List Call} (other : call.delivery? = none)
    (later : Warranted (known ++ call.warrant?.toList) rest) : Warranted known (call :: rest) := by
  refine ⟨?_, later⟩
  intro delivery delivered
  rw [other] at delivered
  cases delivered

theorem Warranted.mem {known : List SignalId} {calls : List Call} (warranted : Warranted known calls)
    {delivery : String × Signal} (delivered : delivery ∈ deliveries calls) :
    delivery.2.id ∈ known ++ warrantedIds calls := by
  obtain ⟨call, member, delivery?⟩ := List.mem_filterMap.mp delivered
  obtain ⟨before, after, rfl⟩ := List.append_of_mem member
  have here := (warranted_append.mp warranted).2.1 delivery delivery?
  rw [warrantedIds, List.filterMap_append, ← List.append_assoc]
  exact List.mem_append_left _ here

theorem warranted_delivering {known : List SignalId} {signal : Signal} {calls : List Call}
    (delivering : ∀ call ∈ calls, ∃ c answer, call = .deliver c signal answer) (recorded : signal.id ∈ known) :
    Warranted known calls := by
  induction calls with
  | nil => trivial
  | cons call rest ih =>
      obtain ⟨⟨c, answer, rfl⟩, others⟩ := List.forall_mem_cons.mp delivering
      refine ⟨?_, ?_⟩
      · rintro delivery ⟨⟩
        exact recorded
      · simpa [Call.warrant?, Call.claimed?, Call.received?] using ih others

end Warrants

namespace Bus

variable {b : Bus ω} {signal : Signal} {calls : List Call}

/-- By these calls no signal is claimed and none scheduled. -/
def Neutral (calls : List Call) : Prop := ∀ call ∈ calls, call.claimed? = none ∧ call.scheduled? = none

theorem Neutral.append {first last : List Call} (before : Neutral first) (after : Neutral last) : Neutral (first ++ last) :=
  List.forall_mem_append.mpr ⟨before, after⟩

theorem Neutral.claimedIds (neutral : Neutral calls) : claimedIds calls = [] :=
  List.filterMap_eq_nil_iff.mpr fun call member => (neutral call member).1

theorem Neutral.scheduledIds (neutral : Neutral calls) : scheduledIds calls = [] :=
  List.filterMap_eq_nil_iff.mpr fun call member => (neutral call member).2

theorem neutral_delivering (delivering : ∀ call ∈ calls, ∃ c answer, call = .deliver c signal answer) :
    Neutral calls := by
  intro call member
  obtain ⟨c, answer, rfl⟩ := delivering call member
  exact ⟨rfl, rfl⟩

theorem neutral_saved {status : SignalStatus} (other : status ≠ .scheduled) (error : Option ErrorRecord)
    (answer : Except StorageError Unit) : Neutral [.save signal status error answer] := by
  intro call member
  obtain rfl := List.mem_singleton.mp member
  cases status <;> first | exact ⟨rfl, rfl⟩ | exact absurd rfl other

theorem neutral_settled (outcome : Outcome) (error : Option ErrorRecord) (answer : Except StorageError Unit) :
    Neutral [.save signal outcome.status error answer] :=
  neutral_saved (by cases outcome <;> simp [Outcome.status]) error answer

theorem Processes.neutral {result : Except Halt (Outcome × List Signal)}
    (processed : b.Processes signal calls result) : Neutral calls := by
  cases processed with
  | broken delivered => exact neutral_delivering delivered.delivering
  | unsettled delivered merged cause => exact (neutral_delivering delivered.delivering).append (neutral_settled _ _ _)
  | settled delivered merged gathered => exact (neutral_delivering delivered.delivering).append (neutral_settled _ _ _)

theorem Publishes.neutral {queue : List Signal} {result : Except Halt Unit}
    (published : b.Publishes queue calls result) : Neutral calls := by
  have received : ∀ (event : Signal) answer, Neutral [.save event .received none answer] :=
    fun _ => neutral_saved (by simp) none
  induction published with
  | done => simp [Neutral]
  | unfinished => simp [Neutral]
  | unsaved error => exact received _ _
  | broken processed => exact (received _ _).append processed.neutral
  | next processed later ih => exact (received _ _).append (processed.neutral.append ih)

theorem CarriesOut.neutral {result : Except Halt Outcome} (carried : b.CarriesOut signal calls result) :
    Neutral calls := by
  cases carried with
  | broken processed => exact processed.neutral
  | unpublished processed published => exact processed.neutral.append published.neutral
  | published processed published => exact processed.neutral.append published.neutral

theorem Processes.warranted {known : List SignalId} {result : Except Halt (Outcome × List Signal)}
    (processed : b.Processes signal calls result) (recorded : signal.id ∈ known) : Warranted known calls := by
  have settled : ∀ ids status error answer, Warranted ids [.save signal status error answer] :=
    fun _ _ _ _ => warranted_cons rfl trivial
  cases processed with
  | broken delivered => exact warranted_delivering delivered.delivering recorded
  | unsettled delivered merged cause =>
      exact warranted_append.mpr ⟨warranted_delivering delivered.delivering recorded, settled ..⟩
  | settled delivered merged gathered =>
      exact warranted_append.mpr ⟨warranted_delivering delivered.delivering recorded, settled ..⟩

theorem Publishes.warranted {known : List SignalId} {queue : List Signal} {result : Except Halt Unit}
    (published : b.Publishes queue calls result) : Warranted known calls := by
  have received : ∀ (event : Signal) known,
      event.id ∈ known ++ (Call.save event .received none (.ok ())).warrant?.toList :=
    fun _ _ => List.mem_append_right _ List.mem_cons_self
  induction published generalizing known with
  | done => trivial
  | unfinished => trivial
  | unsaved error => exact warranted_cons rfl trivial
  | broken processed => exact warranted_cons rfl (processed.warranted (received _ _))
  | next processed later ih =>
      exact warranted_cons rfl (warranted_append.mpr ⟨processed.warranted (received _ _), ih⟩)

theorem CarriesOut.warranted {known : List SignalId} {result : Except Halt Outcome}
    (carried : b.CarriesOut signal calls result) (recorded : signal.id ∈ known) : Warranted known calls := by
  cases carried with
  | broken processed => exact processed.warranted recorded
  | unpublished processed published =>
      exact warranted_append.mpr ⟨processed.warranted recorded, published.warranted⟩
  | published processed published =>
      exact warranted_append.mpr ⟨processed.warranted recorded, published.warranted⟩

section Sweeping

variable {now : UInt64} {signals : List Signal} {report : SweepReport} {result : Except Halt SweepReport}

theorem Sweeps.scheduledIds (swept : b.Sweeps now signals report calls result) : scheduledIds calls = [] := by
  induction swept with
  | done => rfl
  | pending delayed later ih => exact ih
  | unclaimed error => rfl
  | taken later ih => exact ih
  | broken due carried => exact carried.neutral.scheduledIds
  | @delivered signal rest report calls more outcome result due carried later ih =>
      change Switchboard.scheduledIds (calls ++ more) = []
      rw [scheduledIds_append, carried.neutral.scheduledIds, ih]
      rfl

theorem Sweeps.delivered_eq {final : SweepReport}
    (swept : b.Sweeps now signals report calls (.ok final)) :
    final.delivered = report.delivered + (claimedIds calls).length := by
  generalize came : (.ok final : Except Halt SweepReport) = result at swept
  induction swept with
  | done =>
      cases came
      rfl
  | pending delayed later ih => exact ih came
  | unclaimed error => cases came
  | taken later ih => exact ih came
  | broken due carried => cases came
  | @delivered signal rest report calls more outcome result due carried later ih =>
      have counted : claimedIds (.claim signal.id (.ok true) :: (calls ++ more)) = signal.id :: claimedIds more := by
        change signal.id :: claimedIds (calls ++ more) = _
        rw [claimedIds_append, carried.neutral.claimedIds, List.nil_append]
      rw [counted, List.length_cons, ih came]
      exact Nat.add_right_comm ..

theorem Sweeps.warranted {known : List SignalId} (swept : b.Sweeps now signals report calls result) :
    Warranted known calls := by
  have claimed : ∀ (signal : Signal) known,
      signal.id ∈ known ++ (Call.claim signal.id (.ok true)).warrant?.toList :=
    fun _ _ => List.mem_append_right _ List.mem_cons_self
  induction swept generalizing known with
  | done => trivial
  | pending delayed later ih => exact ih
  | unclaimed error => exact warranted_cons rfl trivial
  | taken later ih => exact warranted_cons rfl ih
  | broken due carried => exact warranted_cons rfl (carried.warranted (claimed _ _))
  | delivered due carried later ih =>
      exact warranted_cons rfl (warranted_append.mpr ⟨carried.warranted (claimed _ _), ih⟩)

end Sweeping

theorem Acknowledges.neutral {signals : List Signal} {ack : Ack} {result : Except Halt Unit}
    (told : b.Acknowledges signals ack calls result) : Neutral calls := by
  cases told <;> simp [Neutral, Call.claimed?, Call.scheduled?]

theorem SweepsDue.scheduledIds {now : UInt64} {result : Except Halt SweepReport}
    (due : b.SweepsDue now calls result) : scheduledIds calls = [] := by
  cases due with
  | unlisted error => rfl
  | listed swept => exact swept.scheduledIds

theorem SweepsDue.delivered_eq {now : UInt64} {final : SweepReport} (due : b.SweepsDue now calls (.ok final)) :
    final.delivered = (claimedIds calls).length := by
  generalize came : (.ok final : Except Halt SweepReport) = result at due
  cases due with
  | unlisted error => cases came
  | listed swept =>
      subst came
      exact swept.delivered_eq.trans (Nat.zero_add _)

theorem SweepsDue.warranted {now : UInt64} {result : Except Halt SweepReport}
    (due : b.SweepsDue now calls result) : Warranted [] calls := by
  cases due with
  | unlisted error => exact warranted_cons rfl trivial
  | listed swept => exact warranted_cons rfl swept.warranted

/-- A post schedules nothing but its own signal, and that once. -/
theorem Accepts.scheduledIds {signals : List Signal} {now : UInt64} {result : Except Halt Outcome}
    (accepted : b.Accepts signals now signal calls result) : (scheduledIds calls).Sublist [signal.id] := by
  have silent : ∀ {calls}, Neutral calls → (Switchboard.scheduledIds calls).Sublist [signal.id] := by
    intro calls neutral
    rw [neutral.scheduledIds]
    exact List.nil_sublist _
  cases accepted with
  | unsupported unknown told => exact silent told.neutral
  | @unsaved message status error known admitted cause =>
      cases status <;> exact List.nil_sublist _
  | @refused message defect calls result known found told =>
      exact silent ((neutral_saved (by simp) (some defect.record) (.ok ())).append told.neutral)
  | scheduled known sound delayed told =>
      change (signal.id :: Switchboard.scheduledIds _).Sublist _
      rw [told.neutral.scheduledIds]
  | untold known sound due told => exact silent ((neutral_saved (by simp) none (.ok ())).append told.neutral)
  | carried known sound due told done =>
      exact silent ((neutral_saved (by simp) none (.ok ())).append (told.neutral.append done.neutral))

theorem Each.scheduledIds {signals posted : List Signal} {result : Except Halt (List Outcome)}
    (each : Each (fun signal calls result => ∃ now, b.Accepts posted now signal calls result) signals calls result) :
    (scheduledIds calls).Sublist (signals.map (·.id)) := by
  induction each with
  | nil => exact List.Sublist.refl []
  | @broken signal rest calls halt here =>
      obtain ⟨now, accepted⟩ := here
      exact accepted.scheduledIds.trans (List.singleton_sublist.mpr List.mem_cons_self)
  | next here later ih =>
      obtain ⟨now, accepted⟩ := here
      rw [scheduledIds_append]
      exact accepted.scheduledIds.append ih

end Bus

end Switchboard
