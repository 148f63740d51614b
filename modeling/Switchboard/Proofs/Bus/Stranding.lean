import Mathlib.Order.BooleanAlgebra.Set
import Switchboard.Proofs.Bus.Claiming
import Switchboard.Proofs.Bus.Serving
import Switchboard.Proofs.Sample.Booth

namespace Switchboard

/-! What a bus has in hand: the signals that it has stored as received or claimed, and not settled
since. When it returns it has nothing in hand, unless a consumer lacks something; then it leaves
behind the one signal that this consumer got, and no sweep will find it. -/

variable {ω α β : Type}

/-- A signal is taken up when it is received or claimed, and put down by any other save. -/
def Call.hold (held : Set SignalId) : Call → Set SignalId
  | .save signal status _ (.ok ()) =>
      if status = .received then insert signal.id held else held \ {signal.id}
  | .claim id (.ok true) => insert id held
  | _ => held

def inHand (held : Set SignalId) (calls : List Call) : Set SignalId := calls.foldl Call.hold held

section Hands

variable {start held rest : Set SignalId} {calls : List Call}

theorem inHand_append (held : Set SignalId) (first last : List Call) :
    inHand held (first ++ last) = inHand (inHand held first) last :=
  List.foldl_append ..

theorem inHand_delivering {signal : Signal} (held : Set SignalId)
    (delivering : ∀ call ∈ calls, ∃ c answer, call = .deliver c signal answer) : inHand held calls = held := by
  induction calls with
  | nil => rfl
  | cons call rest ih =>
      obtain ⟨⟨c, answer, rfl⟩, others⟩ := List.forall_mem_cons.mp delivering
      exact ih others

theorem inHand_settled (held : Set SignalId) (signal : Signal) (outcome : Outcome) (error : Option ErrorRecord) :
    inHand held [.save signal outcome.status error (.ok ())] = held \ {signal.id} := by
  have settled : outcome.status ≠ .received := by cases outcome <;> simp [Outcome.status]
  exact if_neg settled

theorem Call.mem_hold {call : Call} {id : SignalId} (among : id ∈ call.hold held) :
    id ∈ held ∨ call.warrant? = some id := by
  cases call with
  | save signal status error answer =>
      cases answer with
      | error cause => exact .inl among
      | ok done =>
          by_cases received : status = .received
          · subst received
            exact among.symm.imp_right fun same => congrArg some same.symm
          · rw [hold, if_neg received] at among
            exact .inl among.1
  | claim claimed answer =>
      rcases answer with cause | _ | _
      · exact .inl among
      · exact .inl among
      · exact among.symm.imp_right fun same => congrArg some same.symm
  | _ => exact .inl among

/-- Nothing gets into a hand but by a warrant. -/
theorem mem_inHand {id : SignalId} (among : id ∈ inHand held calls) : id ∈ held ∨ id ∈ warrantedIds calls := by
  induction calls generalizing held with
  | nil => exact .inl among
  | cons call rest ih =>
      have later : ∀ {id}, id ∈ warrantedIds rest → id ∈ warrantedIds (call :: rest) := fun member =>
        List.filterMap_subset _ (List.subset_cons_self call rest) member
      rcases ih among with here | member
      · exact (Call.mem_hold here).imp_right fun warrant =>
          List.mem_filterMap.mpr ⟨call, List.mem_cons_self, warrant⟩
      · exact .inr (later member)

end Hands

/-- Every save among these calls has succeeded. -/
def Saved (calls : List Call) : Prop :=
  ∀ signal status error answer, .save signal status error answer ∈ calls → answer = .ok ()

theorem saved_append {first last : List Call} : Saved (first ++ last) ↔ Saved first ∧ Saved last := by
  simp only [Saved, List.mem_append, or_imp, forall_and]

theorem Saved.tail {call : Call} {rest : List Call} (saved : Saved (call :: rest)) : Saved rest :=
  (saved_append.mp (show Saved ([call] ++ rest) from saved)).2

/-- The last that was done is the delivery of a signal to somebody who lacks something. -/
def BreaksAt (signal : Signal) (calls : List Call) (halt : Halt) : Prop :=
  ∃ before c error, calls = before ++ [.deliver c signal (.error error)] ∧ halt = .error (.configuration error)

/-- From what a bus has in hand at the start, calls lead to no more than it may hold on to. Only at
a delivery that breaks off it may have one signal more. -/
inductive Leaves (start held : Set SignalId) (calls : List Call) : Except Halt α → Prop where
  | clear {result : Except Halt α} (other : ∀ error, result ≠ .error (.error (.configuration error)))
      (within : inHand start calls ⊆ held) : Leaves start held calls result
  | stuck {signal : Signal} {halt : Halt} (breaks : BreaksAt signal calls halt)
      (own : signal.id ∈ inHand start calls) (within : inHand start calls ⊆ insert signal.id held) :
      Leaves start held calls (.error halt)

namespace Leaves

variable {start held : Set SignalId} {calls more : List Call}

theorem ok {value : α} (leaves : Leaves start held calls (.ok value : Except Halt α)) :
    inHand start calls ⊆ held := by
  cases leaves with
  | clear other within => exact within

theorem error {halt : Halt} (leaves : Leaves start held calls (.error halt : Except Halt α)) :
    Leaves start held calls (.error halt : Except Halt β) := by
  cases leaves with
  | clear other within =>
      refine .clear ?_ within
      rintro error ⟨⟩
      exact other error rfl
  | stuck breaks own within => exact .stuck breaks own within

theorem map {f : α → β} {result : Except Halt α} (leaves : Leaves start held calls result) :
    Leaves start held calls (result.map f) := by
  cases result with
  | ok value => exact .clear (by rintro error ⟨⟩) leaves.ok
  | error halt => exact leaves.error

theorem prepend {result : Except Halt α} (first : List Call) (leaves : Leaves (inHand start first) held more result) :
    Leaves start held (first ++ more) result := by
  cases leaves with
  | clear other within => exact .clear other (by rwa [inHand_append])
  | @stuck signal halt breaks own within =>
      rw [← inHand_append] at own within
      obtain ⟨before, c, error, rfl, halted⟩ := breaks
      exact .stuck ⟨first ++ before, c, error, (List.append_assoc ..).symm, halted⟩ own within

end Leaves

namespace Bus

variable {b : Bus ω} {signal : Signal} {calls : List Call} {start held : Set SignalId}

theorem Each.breaks {consumers : List (Consumer ω)} {halt : Halt}
    (delivered : Each (Delivers signal) consumers calls (.error halt : Except Halt (List Outcome))) :
    BreaksAt signal calls halt := by
  generalize came : (.error halt : Except Halt (List Outcome)) = result at delivered
  induction delivered with
  | nil => cases came
  | broken here =>
      cases here with
      | broken error =>
          cases came
          exact ⟨[], _, error, rfl, rfl⟩
  | @next c rest calls more outcome result here later ih =>
      cases result with
      | ok outcomes => cases came
      | error cause =>
          cases came
          obtain ⟨before, c, error, rfl, halted⟩ := ih rfl
          exact ⟨calls ++ before, c, error, (List.append_assoc ..).symm, halted⟩

/-- What keeps a signal from being settled is a consumer that lacks something, or the store. -/
theorem Processes.halted {halt : Halt} (processed : b.Processes signal calls (.error halt)) :
    ∃ error, halt = .error error := by
  cases processed with
  | broken delivered =>
      obtain ⟨before, c, error, -, halted⟩ := delivered.breaks
      exact ⟨_, halted⟩
  | unsettled delivered merged cause => exact ⟨_, rfl⟩

theorem Processes.leaves {result : Except Halt (Outcome × List Signal)}
    (processed : b.Processes signal calls result) (saved : Saved calls) (own : signal.id ∈ start)
    (within : start ⊆ insert signal.id held) : Leaves start held calls result := by
  cases processed with
  | broken delivered =>
      have same := inHand_delivering start delivered.delivering
      exact .stuck delivered.breaks (by rwa [same]) (by rwa [same])
  | unsettled delivered merged cause => cases saved _ _ _ _ (List.mem_append_right _ List.mem_cons_self)
  | settled delivered merged gathered =>
      refine .clear (by rintro error ⟨⟩) ?_
      rw [inHand_append, inHand_delivering start delivered.delivering, inHand_settled]
      exact Set.sdiff_singleton_subset_iff.mpr within

theorem Publishes.leaves {queue : List Signal} {result : Except Halt Unit}
    (published : b.Publishes queue calls result) (saved : Saved calls) (within : start ⊆ held) :
    Leaves start held calls result := by
  induction published generalizing start with
  | done => exact .clear (by rintro error ⟨⟩) within
  | unfinished => exact .clear (by rintro error ⟨⟩) within
  | unsaved error => exact .clear (by rintro error ⟨⟩) within
  | @broken event waiting calls halt processed =>
      apply Leaves.prepend [.save event .received none (.ok ())]
      exact (processed.leaves saved.tail (Set.mem_insert ..) (Set.insert_subset_insert within)).error
  | @next event waiting followUps calls more outcome result processed later ih =>
      obtain ⟨savedFirst, savedMore⟩ := saved_append.mp saved.tail
      have settled := processed.leaves savedFirst (Set.mem_insert ..) (Set.insert_subset_insert within)
      apply Leaves.prepend [.save event .received none (.ok ())]
      exact (ih savedMore settled.ok).prepend _

theorem CarriesOut.leaves {result : Except Halt Outcome} (carried : b.CarriesOut signal calls result)
    (saved : Saved calls) (own : signal.id ∈ start) (within : start ⊆ insert signal.id held) :
    Leaves start held calls result := by
  cases carried with
  | broken processed => exact (processed.leaves saved own within).error
  | unpublished processed published =>
      obtain ⟨savedFirst, savedMore⟩ := saved_append.mp saved
      exact (published.leaves savedMore (processed.leaves savedFirst own within).ok).error.prepend _
  | published processed published =>
      obtain ⟨savedFirst, savedMore⟩ := saved_append.mp saved
      exact (published.leaves savedMore (processed.leaves savedFirst own within).ok).map (f := fun _ => _).prepend _

theorem Acknowledges.inHand_eq {signals : List Signal} {ack : Ack} {result : Except Halt Unit}
    (told : b.Acknowledges signals ack calls result) (held : Set SignalId) : inHand held calls = held := by
  cases told <;> rfl

theorem Acknowledges.broken {signals : List Signal} {ack : Ack} {halt : Halt}
    (told : b.Acknowledges signals ack calls (.error halt)) : ∃ error, halt = .monitor error := by
  generalize came : (.error halt : Except Halt Unit) = result at told
  cases told with
  | plain unwatched answer =>
      cases answer with
      | ok done => cases came
      | error error =>
          cases came
          exact ⟨error, rfl⟩
  | failed error =>
      cases came
      exact ⟨error, rfl⟩
  | puzzled made =>
      cases came
      exact ⟨_, rfl⟩
  | announced watched made => cases came

/-- A signal that is not taken up is at most acknowledged. -/
theorem Acknowledges.leaves {signals : List Signal} {ack : Ack} {result : Except Halt Unit}
    (told : b.Acknowledges signals ack calls result) (within : start ⊆ held) : Leaves start held calls result := by
  refine .clear ?_ (by rwa [told.inHand_eq])
  rintro error rfl
  obtain ⟨_, ⟨⟩⟩ := told.broken

theorem Accepts.leaves {signals : List Signal} {now : UInt64} {result : Except Halt Outcome}
    (accepted : b.Accepts signals now signal calls result) (saved : Saved calls)
    (returned : ∀ error, result ≠ .error (.monitor error)) (within : start ⊆ held) :
    Leaves start held calls result := by
  cases accepted with
  | unsupported unknown told => exact (told.leaves within).map
  | unsaved known admitted cause => cases saved _ _ _ _ List.mem_cons_self
  | @refused message defect calls result known found told =>
      have fewer : inHand start [.save signal .error (some defect.record) (.ok ())] ⊆ held :=
        Set.sdiff_subset.trans within
      exact (told.leaves fewer).map.prepend _
  | scheduled known sound delayed told =>
      have fewer : inHand start [.save signal .scheduled none (.ok ())] ⊆ held := Set.sdiff_subset.trans within
      exact (told.leaves fewer).map.prepend _
  | untold known sound due told =>
      obtain ⟨error, rfl⟩ := told.broken
      exact absurd rfl (returned error)
  | @carried message told more _ known sound due acknowledged carried =>
      apply Leaves.prepend [.save signal .received none (.ok ())]
      apply Leaves.prepend _
      rw [acknowledged.inHand_eq]
      exact carried.leaves (saved_append.mp saved.tail).2 (Set.mem_insert ..) (Set.insert_subset_insert within)

theorem Each.leaves {signals posted : List Signal} {result : Except Halt (List Outcome)}
    (each : Each (fun signal calls result => ∃ now, b.Accepts posted now signal calls result) signals calls result)
    (saved : Saved calls) (returned : ∀ error, result ≠ .error (.monitor error)) (within : start ⊆ held) :
    Leaves start held calls result := by
  induction each generalizing start with
  | nil => exact .clear (by rintro error ⟨⟩) within
  | @broken signal rest calls halt here =>
      obtain ⟨now, accepted⟩ := here
      refine (accepted.leaves saved ?_ within).error
      rintro error ⟨⟩
      exact returned error rfl
  | @next signal rest calls more outcome result here later ih =>
      obtain ⟨now, accepted⟩ := here
      obtain ⟨savedFirst, savedMore⟩ := saved_append.mp saved
      have settled := accepted.leaves savedFirst (by rintro error ⟨⟩) within
      refine (ih savedMore ?_ settled.ok).map.prepend _
      rintro error rfl
      exact returned error rfl

theorem Sweeps.leaves {now : UInt64} {signals : List Signal} {report : SweepReport}
    {result : Except Halt SweepReport} (swept : b.Sweeps now signals report calls result) (saved : Saved calls)
    (within : start ⊆ held) : Leaves start held calls result := by
  induction swept generalizing start with
  | done => exact .clear (by rintro error ⟨⟩) within
  | pending delayed later ih => exact ih saved within
  | unclaimed error => exact .clear (by rintro error ⟨⟩) within
  | @taken signal rest report calls result later ih =>
      exact (ih saved.tail within).prepend [.claim signal.id (.ok false)]
  | @broken signal rest report calls halt due carried =>
      apply Leaves.prepend [.claim signal.id (.ok true)]
      exact (carried.leaves saved.tail (Set.mem_insert ..) (Set.insert_subset_insert within)).error
  | @delivered signal rest report calls more outcome result due carried later ih =>
      obtain ⟨savedFirst, savedMore⟩ := saved_append.mp saved.tail
      have settled := carried.leaves savedFirst (Set.mem_insert ..) (Set.insert_subset_insert within)
      apply Leaves.prepend [.claim signal.id (.ok true)]
      exact (ih savedMore settled.ok).prepend _

theorem SweepsDue.leaves {now : UInt64} {result : Except Halt SweepReport}
    (due : b.SweepsDue now calls result) (saved : Saved calls) (within : start ⊆ held) :
    Leaves start held calls result := by
  cases due with
  | unlisted error => exact .clear (by rintro error ⟨⟩) within
  | @listed signals calls _ swept =>
      exact (swept.leaves saved.tail within).prepend [.scheduled (.ok signals)]

end Bus

namespace SignalRecords

variable {records others : SignalRecords} {touched : List SignalId} {held : Set SignalId} {call : Call}

/-- Signals that are recorded stay so, and none of them is received once more. -/
def Calm (before after : SignalRecords) : Prop :=
  ∀ id r, before id = some r → ∃ later, after id = some later ∧ (later.status = .received → r.status = .received)

theorem Calm.refl (records : SignalRecords) : records.Calm records :=
  fun _ r found => ⟨r, found, id⟩

/-- These signals are recorded, and none of them as received if the bus does not have it in hand. -/
def Stand (records : SignalRecords) (touched : List SignalId) (held : Set SignalId) : Prop :=
  ∀ id ∈ touched, ∃ r, records id = some r ∧ (r.status = .received → id ∈ held)

theorem Stand.calm (stand : records.Stand touched held) (calm : records.Calm others) :
    others.Stand touched held := by
  intro id member
  obtain ⟨r, found, unsettled⟩ := stand id member
  obtain ⟨later, kept, received⟩ := calm id r found
  exact ⟨later, kept, unsettled ∘ received⟩

/-- A call is answered by a record of what it is about. -/
theorem Stand.write (stand : records.Stand touched held) (fits : call.Fits records) :
    (call.write records).Stand (touched ++ call.warrant?.toList) (call.hold held) := by
  have unchanged : records.Stand (touched ++ []) held := by rwa [List.append_nil]
  cases call with
  | save signal status error answer =>
      cases answer with
      | error cause => cases status <;> exact unchanged
      | ok done =>
          intro id member
          by_cases same : id = signal.id
          · subst same
            refine ⟨⟨signal, status, error⟩, Function.update_self .., ?_⟩
            rintro rfl
            exact Set.mem_insert ..
          · have among : id ∈ touched := by
              refine (List.mem_append.mp member).resolve_right ?_
              cases status <;> simp [Call.warrant?, Call.claimed?, Call.received?, same]
            obtain ⟨r, found, unsettled⟩ := stand id among
            refine ⟨r, (Function.update_of_ne same _ _).trans found, fun received => ?_⟩
            by_cases taken : status = .received
            · simpa [Call.hold, taken, same] using unsettled received
            · simpa [Call.hold, taken, same] using unsettled received
  | claim claimed answer =>
      rcases answer with cause | _ | _
      · exact unchanged
      · exact unchanged
      · intro id member
        by_cases same : id = claimed
        · subst same
          obtain ⟨r, found, -⟩ := Option.map_eq_some_iff.mp fits
          exact ⟨{ r with status := .received }, by simp [Call.write, found], fun _ => Set.mem_insert ..⟩
        · have among : id ∈ touched := by
            refine (List.mem_append.mp member).resolve_right ?_
            simp [Call.warrant?, Call.claimed?, same]
          obtain ⟨r, found, unsettled⟩ := stand id among
          exact ⟨r, (Function.update_of_ne same _ _).trans found, fun received => .inr (unsettled received)⟩
  | _ => exact unchanged

/-- What is in hand is recorded as received. -/
def Hold (records : SignalRecords) (held : Set SignalId) : Prop :=
  ∀ id ∈ held, (records id).map (·.status) = some .received

theorem Hold.write (hold : records.Hold held) (fits : call.Fits records) :
    (call.write records).Hold (call.hold held) := by
  cases call with
  | save signal status error answer =>
      cases answer with
      | error cause => exact hold
      | ok done =>
          intro id among
          by_cases received : status = .received
          · subst received
            by_cases same : id = signal.id
            · subst same
              simp [Call.write]
            · simpa [Call.write, Function.update_of_ne same] using hold id (among.resolve_left same)
          · rw [Call.hold, if_neg received] at among
            have other : id ≠ signal.id := among.2
            simpa [Call.write, Function.update_of_ne other] using hold id among.1
  | claim claimed answer =>
      rcases answer with cause | _ | _
      · exact hold
      · exact hold
      · intro id among
        by_cases same : id = claimed
        · subst same
          obtain ⟨r, found, -⟩ := Option.map_eq_some_iff.mp fits
          simp [Call.write, found]
        · simpa [Call.write, Function.update_of_ne same] using hold id (among.resolve_left same)
  | _ => exact hold

theorem Hold.after {calls : List Call} (hold : records.Hold held) (served : records.Serve calls) :
    (records.after calls).Hold (inHand held calls) := by
  induction calls generalizing records held with
  | nil => exact hold
  | cons call rest ih => exact ih (hold.write served.1) served.2

end SignalRecords

/-- Saving in the store never fails. -/
def SignalStore.Saves (s : SignalStore ω) : Prop :=
  ∀ signal status error outside, (s.save signal status error outside).1 = .ok ()

namespace Bus

section Steps

variable {b : Bus ω} {observer : Observer ω} {view : b.store.View} {w later : World ω} {calls : List Call}

theorem Steps.saved (steps : b.Steps observer w calls later) (saves : b.store.Saves) : Saved calls := by
  induction steps with
  | trans first last ihFirst ihLast => exact saved_append.mpr ⟨ihFirst, ihLast⟩
  | save w signal status error =>
      intro _ _ _ answer member
      cases List.mem_singleton.mp member
      exact saves ..
  | _ => simp [Saved]

/-- Whatever has been taken up is recorded, and as received only while the bus has it in hand. -/
theorem Steps.stand (steps : b.Steps observer w calls later) (calm : b.Respects view SignalRecords.Calm)
    (quiet : observer.Respects view SignalRecords.Calm) :
    (view.record later.outside).Stand (warrantedIds calls) (inHand ∅ calls) := by
  refine steps.along calm quiet (fun calls records => records.Stand (warrantedIds calls) (inHand ∅ calls)) ?_ ?_ ?_
  · intro calls records call fits stand
    have warranted : warrantedIds (calls ++ [call]) = warrantedIds calls ++ call.warrant?.toList := by
      rw [warrantedIds, List.filterMap_append]
      cases found : call.warrant? <;> simp [found, warrantedIds]
    rw [warranted, inHand_append]
    exact stand.write fits
  · intro calls records others change stand
    exact stand.calm change
  · simp [SignalRecords.Stand, warrantedIds]

end Steps

/-- How a request ends: it returns, or breaks off. -/
def ending (b : Bus ω) (w : World ω) : BusRequest ω → Except Halt Unit
  | .post fuel observer signal => (b.post fuel observer signal w).1.map fun _ => ()
  | .postAll fuel observer signals => (b.postAll fuel observer signals w).1.map fun _ => ()
  | .sweep fuel => (b.sweep fuel w).1.map fun _ => ()

section Serving

variable {b : Bus ω} {view : b.store.View}

theorem serve_leaves (view : b.store.View) (saves : b.store.Saves) (request : BusRequest ω) (w : World ω)
    (returned : ∀ error, b.ending w request ≠ .error (.monitor error)) :
    ∃ calls observer, b.recorded.serve (w.recorded []) request.recorded = (b.serve w request).recorded calls ∧
      b.Steps observer w calls (b.serve w request) ∧ Leaves ∅ ∅ calls (b.ending w request) ∧
      ∀ {change : SignalRecords → SignalRecords → Prop}, (∀ records, change records records) →
        request.Respects view change → observer.Respects view change := by
  have unmonitored : ∀ {α : Type} {result : Except Halt α},
      (∀ error, result.map (fun _ => ()) ≠ .error (.monitor error)) →
        ∀ error, result ≠ .error (.monitor error) := by
    rintro α result unlike error rfl
    exact unlike error rfl
  cases request with
  | post fuel observer signal =>
      obtain ⟨calls, accepts, steps, same⟩ := post_traced (b := b) fuel observer signal w
      exact ⟨calls, observer, congrArg Prod.snd (same []), steps,
        (accepts.leaves (steps.saved saves) (unmonitored returned) subset_rfl).map, fun _ quiet => quiet⟩
  | postAll fuel observer signals =>
      obtain ⟨calls, each, steps, same⟩ := postAll_traced (b := b) fuel observer signals w
      exact ⟨calls, observer, congrArg Prod.snd (same []), steps,
        (each.leaves (steps.saved saves) (unmonitored returned) subset_rfl).map, fun _ quiet => quiet⟩
  | sweep fuel =>
      obtain ⟨calls, due, steps, same⟩ := sweep_traced (b := b) fuel .discarding w
      exact ⟨calls, .discarding, congrArg Prod.snd (same []), steps,
        (due.leaves (steps.saved saves) subset_rfl).map, fun refl _ _ _ => refl _⟩

/-- When a request returns, whatever it has taken up is settled or scheduled. Only a consumer that
lacks something leaves a signal received: the one whose delivery broke the request off. -/
theorem settled_unless_misconfigured (saves : b.store.Saves) (calm : b.Respects view SignalRecords.Calm)
    (request : BusRequest ω) (quiet : request.Respects view SignalRecords.Calm) (w : World ω)
    (returned : ∀ error, b.ending w request ≠ .error (.monitor error)) :
    let after := view.record (b.serve w request).outside
    ∃ calls, b.recorded.serve (w.recorded []) request.recorded = (b.serve w request).recorded calls ∧
      ((∀ error, b.ending w request ≠ .error (.error (.configuration error))) →
        ∀ id ∈ warrantedIds calls, ∃ r, after id = some r ∧ r.status ∈ [.ok, .rejected, .error, .scheduled]) ∧
      ∀ error, b.ending w request = .error (.error (.configuration error)) →
        ∃ before c signal, calls = before ++ [.deliver c signal (.error error)] ∧
          signal.id ∈ warrantedIds calls ∧
          (∀ id ∈ warrantedIds calls, id ≠ signal.id →
            ∃ r, after id = some r ∧ r.status ∈ [.ok, .rejected, .error, .scheduled]) ∧
          (b.Respects view Eq → request.Respects view Eq →
            ∃ r, after signal.id = some r ∧ r.status = .received) := by
  intro after
  obtain ⟨calls, observer, same, steps, leaves, respects⟩ := serve_leaves view saves request w returned
  have stand : after.Stand (warrantedIds calls) (inHand ∅ calls) :=
    steps.stand calm (respects .refl quiet)
  have settled : ∀ id ∈ warrantedIds calls, id ∉ inHand ∅ calls →
      ∃ r, after id = some r ∧ r.status ∈ [.ok, .rejected, .error, .scheduled] := by
    intro id member put
    obtain ⟨r, found, unsettled⟩ := stand id member
    refine ⟨r, found, ?_⟩
    have done : r.status ≠ .received := put ∘ unsettled
    cases status : r.status <;> simp_all
  refine ⟨calls, same, ?_, ?_⟩
  · intro other id member
    apply settled id member
    generalize b.ending w request = result at leaves other
    cases leaves with
    | clear _ within => exact fun among => within among
    | stuck breaks own within =>
        obtain ⟨before, c, error, -, rfl⟩ := breaks
        exact absurd rfl (other error)
  · intro error halted
    rw [halted] at leaves
    cases leaves with
    | clear other within => exact absurd rfl (other error)
    | @stuck signal halt breaks own within =>
        obtain ⟨before, c, cause, rfl, ⟨⟩⟩ := breaks
        refine ⟨before, c, signal, rfl, ?_, ?_, ?_⟩
        · exact (mem_inHand own).resolve_left (Set.notMem_empty _)
        · intro id member different
          apply settled id member
          exact fun among => (within among).elim different (Set.notMem_empty _)
        · intro discreet silent
          obtain ⟨records, served⟩ := steps.records discreet (respects (fun _ => rfl) silent)
          have hold : after.Hold (inHand ∅ (before ++ [.deliver c signal (.error error)])) := by
            change (view.record (b.serve w request).outside).Hold _
            rw [records]
            exact SignalRecords.Hold.after (fun id among => absurd among (Set.notMem_empty _)) served
          obtain ⟨r, found, status⟩ := Option.map_eq_some_iff.mp (hold signal.id own)
          exact ⟨r, found, status⟩

end Serving

open Sample Booth in
/-- The audit at the booth is the signal that is left. -/
theorem settled_unless_misconfigured_booth :
    let request : BusRequest Desk := .post 9 .discarding auditing
    ∃ calls error before c signal,
      bus.recorded.serve (opened.recorded []) request.recorded = (bus.serve opened request).recorded calls ∧
      bus.ending opened request = .error (.error (.configuration error)) ∧
      calls = before ++ [.deliver c signal (.error error)] ∧
      ∃ r, view.record (bus.serve opened request).outside signal.id = some r ∧ r.status = .received := by
  intro request
  have halted : bus.ending opened request =
      .error (.error (.configuration (.missingApplier "unwired" "bank.AccountAudited"))) := by decide +kernel
  have discreet : bus.Respects view Eq := bus_apart.respects
  have silent : request.Respects view Eq := fun _ _ => rfl
  have calm : bus.Respects view SignalRecords.Calm := discreet.mono fun same => same ▸ .refl _
  obtain ⟨calls, same, -, stuck⟩ := settled_unless_misconfigured (fun _ _ _ _ => rfl) calm request
    (fun _ _ => .refl _) opened (by rw [halted]; rintro error ⟨⟩)
  obtain ⟨before, c, signal, last, -, -, left⟩ := stuck _ halted
  exact ⟨calls, _, before, c, signal, same, halted, last, left discreet silent⟩

open Sample Booth in
/-- At the booth an audit that is stored as received stays so: nobody settles or schedules it, and
the next sweep does not see it. -/
theorem misconfigured_stranded :
    let run := bus.post 9 .discarding auditing opened
    let sweep := bus.sweep 9 run.2
    run.1 = .error (.error (.configuration (.missingApplier "unwired" "bank.AccountAudited"))) ∧
      auditing.id ∈ warrantedIds (bus.recorded.post 9 (Observer.recorded .discarding) auditing
        (opened.recorded [])).2.outside.calls ∧
      view.record run.2.outside auditing.id = some ⟨auditing, .received, none⟩ ∧
      sweep.1 = .ok ⟨0, 0, 0⟩ ∧
      view.record sweep.2.outside auditing.id = some ⟨auditing, .received, none⟩ := by
  decide +kernel

end Bus

end Switchboard
