import Mathlib.Logic.Function.Basic
import Switchboard.Entity.Storage
import Switchboard.Proofs.Bus.Recording

namespace Switchboard

/-! What a signal store keeps, whatever it keeps it in, and what the calls on it tell of that. -/

variable {ω α : Type}

abbrev SignalRecords := SignalId → Option SignalRecord

/-- The records after a call. Only a save or a claim that succeeds changes any. -/
def Call.write (records : SignalRecords) : Call → SignalRecords
  | .save signal status error (.ok ()) => Function.update records signal.id (some ⟨signal, status, error⟩)
  | .claim id (.ok true) =>
      Function.update records id ((records id).map fun r => { r with status := .received })
  | _ => records

/-- A signal is claimed only while it is scheduled. -/
def Call.Fits (records : SignalRecords) : Call → Prop
  | .claim id (.ok true) => (records id).map (·.status) = some .scheduled
  | _ => True

/-- What is recorded under an id a call either leaves alone, or replaces, or marks as received. -/
theorem Call.write_cases (call : Call) (id : SignalId) :
    (∀ records, call.write records id = records id) ∨
      (∃ signal status error, signal.id = id ∧ ∀ records, call.write records id = some ⟨signal, status, error⟩) ∨
      ∀ records, call.write records id = (records id).map fun r => { r with status := .received } := by
  cases call with
  | save signal status error answer =>
      cases answer with
      | error cause => exact .inl fun _ => rfl
      | ok done =>
          by_cases same : id = signal.id
          · exact .inr (.inl ⟨signal, status, error, same.symm, fun _ => by simp [write, same]⟩)
          · exact .inl fun _ => Function.update_of_ne same ..
  | claim claimed answer =>
      rcases answer with cause | _ | _
      · exact .inl fun _ => rfl
      · exact .inl fun _ => rfl
      · by_cases same : id = claimed
        · exact .inr (.inr fun _ => by simp [write, same])
        · exact .inl fun _ => Function.update_of_ne same ..
  | _ => exact .inl fun _ => rfl

namespace SignalRecords

def after (records : SignalRecords) (calls : List Call) : SignalRecords := calls.foldl Call.write records

theorem after_append (records : SignalRecords) (first last : List Call) :
    after records (first ++ last) = after (after records first) last :=
  List.foldl_append ..

def Serve : SignalRecords → List Call → Prop
  | _, [] => True
  | records, call :: rest => call.Fits records ∧ Serve (call.write records) rest

theorem serve_append {records : SignalRecords} {first last : List Call} :
    Serve records (first ++ last) ↔ Serve records first ∧ Serve (after records first) last := by
  induction first generalizing records with
  | nil => simp [Serve, after]
  | cons call rest ih => simp only [List.cons_append, Serve, ih, after, List.foldl_cons, and_assoc]

end SignalRecords

namespace SignalStore

/-- Makes a call of the store once more, and puts down what the store answers to it now. -/
def reply (s : SignalStore ω) : Call → StateM ω Call
  | .save signal status error _ => .save signal status error <$> s.save signal status error
  | .record id _ => .record id <$> s.record id
  | .scheduled _ => .scheduled <$> s.scheduled
  | .claim id _ => .claim id <$> s.claim id
  | call => return call

/-- The answers in these calls are those that the store gives, one call after another. -/
def Answers (s : SignalStore ω) : ω → List Call → Prop
  | _, [] => True
  | outside, call :: rest => (s.reply call outside).1 = call ∧ s.Answers (s.reply call outside).2 rest

instance decidableAnswers (s : SignalStore ω) : ∀ outside calls, Decidable (s.Answers outside calls)
  | _, [] => isTrue trivial
  | outside, call :: rest =>
      have := s.decidableAnswers (s.reply call outside).2 rest
      inferInstanceAs (Decidable ((s.reply call outside).1 = call ∧ s.Answers (s.reply call outside).2 rest))

end SignalStore

/-- What is recorded under each id. A call that fails changes no record. -/
structure SignalStore.View (store : SignalStore ω) where
  record : ω → SignalRecords
  save : ∀ signal status error outside, record (store.save signal status error outside).2 =
    (Call.save signal status error (store.save signal status error outside).1).write (record outside)
  kept : ∀ id outside, record (store.record id outside).2 = record outside
  listed : ∀ outside, record (store.scheduled outside).2 = record outside
  claim : ∀ id outside, record (store.claim id outside).2 =
    (Call.claim id (store.claim id outside).1).write (record outside)
  claimed : ∀ id outside, (Call.claim id (store.claim id outside).1).Fits (record outside)

namespace SignalLedger

theorem record?_save (l : SignalLedger) (signal : Signal) (status : SignalStatus) (error : Option ErrorRecord) :
    (l.save signal status error).record? =
      Function.update l.record? signal.id (some ⟨signal, status, error⟩) := by
  funext id
  by_cases same : signal.id = id
  · subst same
    simp [save, record?, Table.find?_insert]
  · simp [save, record?, Table.find?_insert, same, Function.update, Ne.symm same]

theorem claim_scheduled {l : SignalLedger} {id : SignalId} {r : SignalRecord} (found : l.record? id = some r)
    (scheduled : r.status = .scheduled) :
    (l.claim id).1 = true ∧
      (l.claim id).2.record? = Function.update l.record? id (some { r with status := .received }) := by
  simp only [claim, found, scheduled, reduceIte, true_and]
  funext other
  by_cases same : id = other
  · subst same
    simp [record?, Table.find?_insert]
  · simp [record?, Table.find?_insert, same, Function.update, Ne.symm same]

theorem claim_refused {l : SignalLedger} {id : SignalId}
    (unscheduled : (l.record? id).map (·.status) ≠ some .scheduled) : l.claim id = (false, l) := by
  cases found : l.record? id with
  | none => simp only [claim, found]
  | some r =>
      have other : r.status ≠ .scheduled := by simpa [found] using unscheduled
      simp only [claim, found, if_neg other]

theorem claim_write (l : SignalLedger) (id : SignalId) :
    (l.claim id).2.record? = (Call.claim id (.ok (l.claim id).1)).write l.record? ∧
      (Call.claim id (.ok (l.claim id).1)).Fits l.record? := by
  by_cases scheduled : (l.record? id).map (·.status) = some .scheduled
  · obtain ⟨r, found, status⟩ := Option.map_eq_some_iff.mp scheduled
    obtain ⟨claimed, left⟩ := claim_scheduled found status
    rw [claimed, left]
    exact ⟨by simp [Call.write, found], scheduled⟩
  · rw [claim_refused scheduled]
    exact ⟨rfl, trivial⟩

theorem claim_iff (l : SignalLedger) (id : SignalId) :
    (l.claim id).1 = true ↔ (l.record? id).map (·.status) = some .scheduled := by
  by_cases scheduled : (l.record? id).map (·.status) = some .scheduled
  · obtain ⟨r, found, status⟩ := Option.map_eq_some_iff.mp scheduled
    simp only [(claim_scheduled found status).1, scheduled]
  · simp only [claim_refused scheduled, scheduled, Bool.false_eq_true]

def view (place : Place ω SignalLedger) : (store place).View where
  record outside := (place.get outside).record?
  save signal status error outside := by
    simp only [store, Place.within, place.get_set]
    exact record?_save ..
  kept _ _ := by simp only [store, Place.within, place.get_set]
  listed _ := by simp only [store, Place.within, place.get_set]
  claim id outside := by
    simp only [store, Place.within, place.get_set]
    exact (claim_write _ id).1
  claimed id outside := (claim_write _ id).2

theorem view_new {place : Place ω SignalLedger} {start : ω} (new : place.get start = .empty) (id : SignalId) :
    (view place).record start id = none := by
  change (place.get start).record? id = none
  rw [new]
  rfl

end SignalLedger

namespace SignalStore

def missing (place : Place ω Faults) (step : StateM ω (Except StorageError α)) :
    StateM ω (Except StorageError α) := fun outside =>
  match (place.get outside).next with
  | (some error, faults) => (.error error, place.set faults outside)
  | (none, faults) => step (place.set faults outside)

/-- The store with some calls failing. A call that fails does not reach it. -/
def failing (place : Place ω Faults) (s : SignalStore ω) : SignalStore ω where
  save signal status error := missing place (s.save signal status error)
  record id := missing place (s.record id)
  scheduled := missing place s.scheduled
  claim id := missing place (s.claim id)

namespace View

variable {s : SignalStore ω} {place : Place ω Faults}

theorem reply (v : s.View) (call : Call) (outside : ω) :
    v.record (s.reply call outside).2 = (s.reply call outside).1.write (v.record outside) ∧
      (s.reply call outside).1.Fits (v.record outside) := by
  cases call with
  | save signal status error => exact ⟨v.save .., trivial⟩
  | record id => exact ⟨v.kept .., trivial⟩
  | scheduled => exact ⟨v.listed .., trivial⟩
  | claim id => exact ⟨v.claim .., v.claimed ..⟩
  | deliver => exact ⟨rfl, trivial⟩
  | acknowledge => exact ⟨rfl, trivial⟩
  | announce => exact ⟨rfl, trivial⟩

/-- What the store answers to the later calls, it answers from the records that the earlier ones
have left. -/
theorem answered (v : s.View) {outside : ω} {first last : List Call}
    (answers : s.Answers outside (first ++ last)) :
    ∃ middle, v.record middle = (v.record outside).after first ∧
      (v.record outside).Serve first ∧ s.Answers middle last := by
  induction first generalizing outside with
  | nil => exact ⟨outside, rfl, trivial, answers⟩
  | cons call rest ih =>
      obtain ⟨same, answers⟩ := answers
      obtain ⟨middle, records, served, later⟩ := ih answers
      obtain ⟨written, fits⟩ := v.reply call outside
      rw [same] at written fits
      rw [written] at records served
      exact ⟨middle, records, ⟨fits, served⟩, later⟩

theorem missing_write (v : s.View) (apart : ∀ faults outside, v.record (place.set faults outside) = v.record outside)
    {step : StateM ω (Except StorageError α)} (call : Except StorageError α → Call)
    (quiet : ∀ error records, (call (.error error)).write records = records)
    (writes : ∀ outside, v.record (step outside).2 = (call (step outside).1).write (v.record outside))
    (outside : ω) :
    v.record (missing place step outside).2 = (call (missing place step outside).1).write (v.record outside) := by
  rcases fault : (place.get outside).next with ⟨_ | error, faults⟩
  · simp only [missing, fault, writes, apart]
  · simp only [missing, fault, quiet, apart]

/-- Faults hide no record and make none. -/
def failing (v : s.View) (apart : ∀ faults outside, v.record (place.set faults outside) = v.record outside) :
    (s.failing place).View where
  record := v.record
  save signal status error :=
    v.missing_write apart (.save signal status error) (fun _ _ => rfl) (v.save signal status error)
  kept id := v.missing_write apart (.record id) (fun _ _ => rfl) (v.kept id)
  listed := v.missing_write apart .scheduled (fun _ _ => rfl) v.listed
  claim id := v.missing_write apart (.claim id) (fun _ _ => rfl) (v.claim id)
  claimed id outside := by
    rcases fault : (place.get outside).next with ⟨_ | error, faults⟩
    · simp only [SignalStore.failing, missing, fault]
      rw [← apart faults]
      exact v.claimed id _
    · simp only [SignalStore.failing, missing, fault]
      trivial

end View

end SignalStore

end Switchboard
