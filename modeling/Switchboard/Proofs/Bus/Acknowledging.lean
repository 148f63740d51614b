import Switchboard.Proofs.Bus.Settlement
import Switchboard.Proofs.Bus.Stranding
import Switchboard.Proofs.Table

namespace Switchboard

/-! What a bus acknowledges. Every post is acknowledged once, an acceptance as soon as the signal is
stored, and whoever takes system events is told of each acknowledgement in turn. -/

variable {ω : Type}

def Call.acknowledgement? : Call → Option Ack
  | .acknowledge ack _ => some ack
  | _ => none

def Call.announcement? : Call → Option Signal
  | .announce event => some event
  | _ => none

def acknowledgements (calls : List Call) : List Ack := calls.filterMap Call.acknowledgement?

/-- The system events that are posted. -/
def announcements (calls : List Call) : List Signal := calls.filterMap Call.announcement?

@[simp] theorem acknowledgements_append (first last : List Call) :
    acknowledgements (first ++ last) = acknowledgements first ++ acknowledgements last :=
  List.filterMap_append

@[simp] theorem announcements_append (first last : List Call) :
    announcements (first ++ last) = announcements first ++ announcements last :=
  List.filterMap_append

theorem mem_acknowledgements {calls : List Call} {ack : Ack} {answer : Except MonitorError Unit}
    (member : .acknowledge ack answer ∈ calls) : ack ∈ acknowledgements calls :=
  List.mem_filterMap.mpr ⟨_, member, rfl⟩

/-- Calls by which nobody is told of anything. -/
def Silent (calls : List Call) : Prop := acknowledgements calls = [] ∧ announcements calls = []

theorem silent_append {first last : List Call} : Silent (first ++ last) ↔ Silent first ∧ Silent last := by
  simp only [Silent, acknowledgements_append, announcements_append, List.append_eq_nil_iff]
  exact and_and_and_comm

namespace Bus

variable {b : Bus ω} {signal : Signal} {calls : List Call}

theorem Each.silent {consumers : List (Consumer ω)} {result : Except Halt (List Outcome)}
    (each : Each (Delivers signal) consumers calls result) : Silent calls := by
  have quiet : ∀ call ∈ calls, call.acknowledgement? = none ∧ call.announcement? = none := by
    intro call member
    obtain ⟨c, answer, rfl⟩ := each.delivering call member
    exact ⟨rfl, rfl⟩
  exact ⟨List.filterMap_eq_nil_iff.mpr fun call member => (quiet call member).1,
    List.filterMap_eq_nil_iff.mpr fun call member => (quiet call member).2⟩

theorem Processes.silent {result : Except Halt (Outcome × List Signal)}
    (processed : b.Processes signal calls result) : Silent calls := by
  cases processed with
  | broken delivered => exact delivered.silent
  | unsettled delivered => exact silent_append.mpr ⟨delivered.silent, rfl, rfl⟩
  | settled delivered => exact silent_append.mpr ⟨delivered.silent, rfl, rfl⟩

theorem Publishes.silent {queue : List Signal} {result : Except Halt Unit}
    (published : b.Publishes queue calls result) : Silent calls := by
  induction published with
  | broken processed => exact processed.silent
  | next processed later ih => exact silent_append.mpr ⟨processed.silent, ih⟩
  | _ => exact ⟨rfl, rfl⟩

theorem CarriesOut.silent {result : Except Halt Outcome} (carried : b.CarriesOut signal calls result) :
    Silent calls := by
  cases carried with
  | broken processed => exact processed.silent
  | unpublished processed published => exact silent_append.mpr ⟨processed.silent, published.silent⟩
  | published processed published => exact silent_append.mpr ⟨processed.silent, published.silent⟩

theorem Processes.unmonitored {result : Except Halt (Outcome × List Signal)}
    (processed : b.Processes signal calls result) (error : MonitorError) : result ≠ .error (.monitor error) := by
  rintro rfl
  obtain ⟨_, ⟨⟩⟩ := processed.halted

theorem Publishes.unmonitored {queue : List Signal} {result : Except Halt Unit}
    (published : b.Publishes queue calls result) (error : MonitorError) : result ≠ .error (.monitor error) := by
  intro halted
  induction published with
  | broken processed =>
      cases halted
      exact processed.unmonitored error rfl
  | next processed later ih => exact ih halted
  | _ => cases halted

/-- What is done with a stored signal never ends in a monitor that is at a loss. -/
theorem CarriesOut.unmonitored {result : Except Halt Outcome} (carried : b.CarriesOut signal calls result)
    (error : MonitorError) : result ≠ .error (.monitor error) := by
  rintro rfl
  cases carried with
  | broken processed => exact processed.unmonitored error rfl
  | unpublished processed published => exact published.unmonitored error rfl

theorem Sweeps.silent {now : UInt64} {signals : List Signal} {report : SweepReport}
    {result : Except Halt SweepReport} (swept : b.Sweeps now signals report calls result) : Silent calls := by
  induction swept with
  | pending delayed later ih => exact ih
  | taken later ih => exact ih
  | broken due carried => exact carried.silent
  | delivered due carried later ih => exact silent_append.mpr ⟨carried.silent, ih⟩
  | _ => exact ⟨rfl, rfl⟩

theorem SweepsDue.silent {now : UInt64} {result : Except Halt SweepReport}
    (swept : b.SweepsDue now calls result) : Silent calls := by
  cases swept with
  | unlisted error => exact ⟨rfl, rfl⟩
  | listed swept => exact swept.silent

end Bus

/-! System events. -/

/-- A system event tells what the acknowledgement of a signal says, and concerns the same entity of
the same tenant. -/
structure Mirrors (signal : Signal) (ack : Ack) (event : Signal) : Prop where
  concerns : ack.id = signal.id
  told : match ack.status with
    | .ok => SignalAcknowledged.type.event ⟨signal.id⟩ = .ok event.eventMessage
    | .error record => SignalErrored.type.event ⟨signal.id, record⟩ = .ok event.eventMessage
    | .rejection _ => False
  kind : event.kind = .event
  origin : event.context.origin = some signal.id
  tenant : event.tenant = signal.tenant
  target : event.target = signal.target

/-- The bus never acknowledges so. -/
def AckStatus.IsRejection : AckStatus → Prop
  | .rejection _ => True
  | _ => False

/-- A monitor that knows the acknowledged signal makes a system event of every acknowledgement that
is no rejection. -/
theorem Monitor.systemEvent_mirrors {m : Monitor} {signal : Signal} {ack : Ack}
    (known : m.signals.find? ack.id = some signal) (concerns : ack.id = signal.id)
    (sound : ¬ ack.status.IsRejection) (supply : Supply) :
    ∃ event, (m.systemEvent ack supply).1 = .ok event ∧ Mirrors signal ack event := by
  obtain ⟨id, status⟩ := ack
  obtain rfl : id = signal.id := concerns
  cases status with
  | ok =>
      simp only [systemEvent, known, message, MessageType.event, SignalAcknowledged.type, MessageType.plain]
      exact ⟨_, rfl, rfl, rfl, rfl, rfl, rfl, rfl⟩
  | error record =>
      simp only [systemEvent, known, message, MessageType.event, SignalErrored.type, MessageType.plain]
      exact ⟨_, rfl, rfl, rfl, rfl, rfl, rfl, rfl⟩
  | rejection rejection => exact absurd trivial sound

theorem Monitor.find?_of {signals : List Signal} {signal : Signal} (distinct : (signals.map (·.id)).Nodup)
    (member : signal ∈ signals) : (Monitor.of signals).signals.find? signal.id = some signal := by
  refine Table.find?_ofList ?_ (List.mem_map.mpr ⟨signal, member, rfl⟩)
  rwa [List.map_map]

/-- Takes every acknowledgement. -/
def Observer.Heeds (observer : Observer ω) : Prop := ∀ ack w, (observer ack w).1 = .ok ()

/-- No acknowledgement has been refused. -/
def Heeded (calls : List Call) : Prop := ∀ ack answer, .acknowledge ack answer ∈ calls → answer = .ok ()

theorem heeded_append {first last : List Call} : Heeded (first ++ last) ↔ Heeded first ∧ Heeded last := by
  simp only [Heeded, List.mem_append, or_imp, forall_and]

theorem Heeded.tail {call : Call} {rest : List Call} (heeded : Heeded (call :: rest)) : Heeded rest :=
  fun ack answer member => heeded ack answer (List.mem_cons_of_mem call member)

namespace Bus

variable {b : Bus ω} {observer : Observer ω} {view : b.store.View} {u v w later : World ω}
  {signal : Signal} {signals : List Signal} {ack : Ack} {call : Call} {calls first last : List Call}

theorem Steps.heeded (steps : b.Steps observer w calls later) (heeds : observer.Heeds) : Heeded calls := by
  induction steps with
  | trans first last ihFirst ihLast => exact heeded_append.mpr ⟨ihFirst, ihLast⟩
  | acknowledge w ack =>
      intro other answer member
      cases List.mem_singleton.mp member
      exact heeds ack w
  | _ => simp [Heeded]

/-! Moments of a run. -/

/-- One call is not divided. -/
theorem Steps.split_single (steps : b.Steps observer w [call] later) (divided : first ++ last = [call]) :
    ∃ middle, b.Steps observer w first middle ∧ b.Steps observer middle last later := by
  obtain ⟨rfl, rfl⟩ | ⟨rfl, rfl⟩ := List.append_eq_singleton_iff.mp divided
  · exact ⟨w, .refl w, steps⟩
  · exact ⟨later, steps, .refl later⟩

/-- Between two calls there is a moment. -/
theorem Steps.split (steps : b.Steps observer w (first ++ last) later) :
    ∃ middle, b.Steps observer w first middle ∧ b.Steps observer middle last later := by
  generalize divided : first ++ last = calls at steps
  induction steps generalizing first last with
  | refl w =>
      obtain ⟨rfl, rfl⟩ := List.append_eq_nil_iff.mp divided
      exact ⟨w, .refl w, .refl w⟩
  | trans earlier further ihEarlier ihFurther =>
      obtain ⟨rest, rfl, rfl⟩ | ⟨rest, rfl, rfl⟩ := List.append_eq_append_iff.mp divided
      · obtain ⟨middle, begun, ended⟩ := ihEarlier rfl
        exact ⟨middle, begun, ended.trans further⟩
      · obtain ⟨middle, begun, ended⟩ := ihFurther rfl
        exact ⟨middle, earlier.trans begun, ended⟩
  | draw w draws =>
      obtain ⟨rfl, rfl⟩ := List.append_eq_nil_iff.mp divided
      exact ⟨w, .refl w, .draw w draws⟩
  | save w signal status error => exact (Steps.save w signal status error).split_single divided
  | scheduled w => exact (Steps.scheduled w).split_single divided
  | claim w id => exact (Steps.claim w id).split_single divided
  | deliver w member signal => exact (Steps.deliver w member signal).split_single divided
  | acknowledge w ack => exact (Steps.acknowledge w ack).split_single divided
  | announce w system event => exact (Steps.announce w system event).split_single divided

theorem Steps.still (steps : b.Steps observer w [] later) : later.outside = w.outside := by
  generalize none : ([] : List Call) = calls at steps
  induction steps with
  | refl w => rfl
  | trans earlier further ihEarlier ihFurther =>
      obtain ⟨rfl, rfl⟩ := List.append_eq_nil_iff.mp none.symm
      exact (ihFurther rfl).trans (ihEarlier rfl)
  | draw w draws => rfl
  | _ => cases none

/-- What has just been saved is in the store. -/
theorem Steps.stored (view : b.store.View) {status : SignalStatus} {error : Option ErrorRecord}
    (steps : b.Steps observer w (calls ++ [.save signal status error (.ok ())]) later) :
    view.record later.outside signal.id = some ⟨signal, status, error⟩ := by
  obtain ⟨middle, -, last⟩ := steps.split
  clear steps
  generalize one : [Call.save signal status error (.ok ())] = calls at last
  induction last with
  | refl w => cases one
  | trans earlier further ihEarlier ihFurther =>
      obtain ⟨rfl, rfl⟩ | ⟨rfl, rfl⟩ := List.append_eq_singleton_iff.mp one.symm
      · exact ihFurther rfl
      · rw [further.still]
        exact ihEarlier rfl
  | draw w draws => cases one
  | save w other status' error' =>
      rw [view.save]
      simp only [List.cons.injEq, Call.save.injEq, and_true] at one
      obtain ⟨rfl, rfl, rfl, answer⟩ := one
      rw [← answer]
      exact Function.update_self ..
  | _ => cases one

/-- Whatever acceptance is acknowledged, one of the signals has been stored right before. -/
def Backed (signals : List Signal) (calls : List Call) : Prop :=
  ∀ before id answer rest, calls = before ++ .acknowledge (.ok id) answer :: rest →
    ∃ signal ∈ signals, signal.id = id ∧ ∃ status ∈ [SignalStatus.received, .scheduled],
      ∃ start, before = start ++ [.save signal status none (.ok ())]

theorem Backed.of_refusals (refusals : ∀ id, .ok id ∉ acknowledgements calls) : Backed signals calls := by
  rintro before id answer rest rfl
  exact absurd (mem_acknowledgements (List.mem_append_right _ List.mem_cons_self)) (refusals id)

theorem Backed.accepted {status : SignalStatus} (accepting : status ∈ [SignalStatus.received, .scheduled])
    (answer : Except MonitorError Unit) (quiet : acknowledgements calls = []) :
    Backed [signal] (.save signal status none (.ok ()) :: .acknowledge (.ok signal.id) answer :: calls) := by
  intro before id other rest divided
  rcases before with _ | ⟨first, _ | ⟨second, before⟩⟩
  · cases divided
  · cases divided
    exact ⟨signal, List.mem_singleton_self signal, rfl, status, accepting, [], rfl⟩
  · simp only [List.cons_append, List.cons.injEq] at divided
    obtain ⟨-, -, rfl⟩ := divided
    have told : Call.acknowledge (.ok id) other ∈ before ++ .acknowledge (.ok id) other :: rest := by simp
    have member := mem_acknowledgements told
    rw [quiet] at member
    cases member

theorem Backed.mono {more : List Signal} (backed : Backed signals calls)
    (wider : ∀ signal ∈ signals, signal ∈ more) : Backed more calls := by
  intro before id answer rest divided
  obtain ⟨signal, member, stored⟩ := backed before id answer rest divided
  exact ⟨signal, wider signal member, stored⟩

theorem Backed.append (earlier : Backed signals first) (further : Backed signals last) :
    Backed signals (first ++ last) := by
  intro before id answer rest divided
  obtain ⟨part, rfl, ended⟩ | ⟨part, rfl, ended⟩ := List.append_eq_append_iff.mp divided
  · obtain ⟨signal, member, same, status, accepting, start, rfl⟩ := further part id answer rest ended
    exact ⟨signal, member, same, status, accepting, first ++ start, (List.append_assoc ..).symm⟩
  · rcases part with _ | ⟨call, part⟩
    · obtain ⟨_, _, _, _, _, start, impossible⟩ := further [] id answer rest ended.symm
      simp at impossible
    · cases ended
      exact earlier before id answer part rfl

/-- Whenever an acceptance is acknowledged on the way from one world to another, the store holds the
signal at that moment. -/
def Held (b : Bus ω) (view : b.store.View) (observer : Observer ω) (signals : List Signal) (w : World ω)
    (calls : List Call) (later : World ω) : Prop :=
  ∀ before id answer rest, calls = before ++ .acknowledge (.ok id) answer :: rest →
    ∃ moment, b.Steps observer w before moment ∧
      b.Steps observer moment (.acknowledge (.ok id) answer :: rest) later ∧
      ∃ signal ∈ signals, signal.id = id ∧ ∃ status ∈ [SignalStatus.received, .scheduled],
        view.record moment.outside id = some ⟨signal, status, none⟩

theorem Steps.held (steps : b.Steps observer w calls later) (view : b.store.View)
    (backed : Backed signals calls) : b.Held view observer signals w calls later := by
  rintro before id answer rest rfl
  obtain ⟨signal, member, rfl, status, accepting, start, rfl⟩ := backed before id answer rest rfl
  obtain ⟨moment, begun, ended⟩ := steps.split
  exact ⟨moment, begun, ended, signal, member, rfl, status, accepting, begun.stored view⟩

/-! One post. -/

/-- The bus does not take the signal: nobody takes its type, or it is invalid. -/
def Refused (b : Bus ω) (signal : Signal) : Prop :=
  ∀ message, (b.registry signal.kind).class? signal.type = some message → b.Invalid signal message

/-- Whoever takes system events gets one of each acknowledgement of the signals, in the same order. -/
def Mirrored (b : Bus ω) (signals : List Signal) (calls : List Call) : Prop :=
  if b.system.isSome then
    List.Forall₂ (fun ack event => ∃ signal ∈ signals, Mirrors signal ack event) (acknowledgements calls)
      (announcements calls)
  else announcements calls = []

/-- How one posted signal is acknowledged. -/
structure Receipted (b : Bus ω) (signal : Signal) (calls : List Call) (result : Except Halt Outcome) : Prop where
  returned : ∀ outcome, result = .ok outcome → ∃ status, acknowledgements calls = [⟨signal.id, status⟩] ∧
    (b.Refused signal → ∃ record, outcome = .failure record ∧ status = .error record) ∧
    (¬ b.Refused signal → status = .ok)
  broken : ∀ halt, result = .error halt → (∀ error, halt ≠ .monitor error) ∧
    ((∃ status error cause, calls = [.save signal status error (.error cause)]) ∧ acknowledgements calls = [] ∨
      (∃ rest, calls = .save signal .received none (.ok ()) :: rest) ∧ acknowledgements calls = [.ok signal.id])
  backed : Backed [signal] calls
  mirrored : b.Mirrored [signal] calls

/-- An acknowledgement that the observer takes is handed on, and then announced. -/
theorem Acknowledges.taken {result : Except Halt Unit} (told : b.Acknowledges signals ack calls result)
    (heeded : Heeded calls) (distinct : (signals.map (·.id)).Nodup) (member : signal ∈ signals)
    (concerns : ack.id = signal.id) (sound : ¬ ack.status.IsRejection) :
    result = .ok () ∧ acknowledgements calls = [ack] ∧ b.Mirrored [signal] calls ∧
      ∃ rest, calls = .acknowledge ack (.ok ()) :: rest ∧ acknowledgements rest = [] := by
  have known : (Monitor.of signals).signals.find? ack.id = some signal := by
    rw [concerns]
    exact Monitor.find?_of distinct member
  cases told with
  | plain unwatched answer =>
      cases heeded ack answer List.mem_cons_self
      refine ⟨rfl, rfl, ?_, [], rfl, rfl⟩
      rw [Mirrored, unwatched]
      rfl
  | failed error => cases heeded ack _ List.mem_cons_self
  | @puzzled supply error made =>
      obtain ⟨event, given, -⟩ := Monitor.systemEvent_mirrors known concerns sound supply
      cases made.symm.trans given
  | @announced supply event watched made =>
      obtain ⟨other, given, mirrors⟩ := Monitor.systemEvent_mirrors known concerns sound supply
      cases made.symm.trans given
      refine ⟨rfl, rfl, ?_, [.announce event], rfl, rfl⟩
      rw [Mirrored, if_pos watched]
      exact .cons ⟨signal, List.mem_singleton_self signal, mirrors⟩ .nil

theorem Mirrored.of_silent (silent : Silent calls) : b.Mirrored signals calls := by
  rw [Mirrored, silent.1, silent.2]
  split
  · exact .nil
  · rfl

theorem Mirrored.append (earlier : b.Mirrored signals first) (further : b.Mirrored signals last) :
    b.Mirrored signals (first ++ last) := by
  rw [Mirrored, acknowledgements_append, announcements_append]
  unfold Mirrored at earlier further
  split at earlier
  next watched =>
    rw [if_pos watched] at further ⊢
    exact List.rel_append earlier further
  next unwatched =>
    rw [if_neg unwatched] at further ⊢
    rw [earlier, further]
    rfl

/-- Nobody is told of what is saved. -/
theorem Mirrored.saved (mirrored : b.Mirrored signals calls) (signal : Signal) (status : SignalStatus)
    (error : Option ErrorRecord) (answer : Except StorageError Unit) :
    b.Mirrored signals (.save signal status error answer :: calls) := mirrored

/-- A signal that is refused is acknowledged with the error of its outcome. -/
theorem Receipted.refused {record : ErrorRecord} (refused : b.Refused signal)
    (told : acknowledgements calls = [.error signal.id record]) (mirrored : b.Mirrored [signal] calls) :
    b.Receipted signal calls (.ok (.failure record)) := by
  refine ⟨?_, nofun, .of_refusals ?_, mirrored⟩
  · rintro outcome ⟨⟩
    exact ⟨_, told, fun _ => ⟨record, rfl, rfl⟩, fun taken => absurd refused taken⟩
  · intro id member
    rw [told, List.mem_singleton] at member
    cases member

/-- Any other signal is acknowledged as accepted, whatever becomes of it. -/
theorem Receipted.accepted {status : SignalStatus} {answer : Except MonitorError Unit}
    {result : Except Halt Outcome} (taken : ¬ b.Refused signal)
    (accepting : status ∈ [SignalStatus.received, .scheduled]) (quiet : acknowledgements calls = [])
    (returns : ∀ halt, result = .error halt → status = .received ∧ ∀ error, halt ≠ .monitor error)
    (mirrored : b.Mirrored [signal] (.acknowledge (.ok signal.id) answer :: calls)) :
    b.Receipted signal (.save signal status none (.ok ()) :: .acknowledge (.ok signal.id) answer :: calls) result := by
  have told : acknowledgements (.save signal status none (.ok ()) :: .acknowledge (.ok signal.id) answer :: calls) =
      [.ok signal.id] := congrArg (Ack.ok signal.id :: ·) quiet
  refine ⟨fun outcome _ => ⟨.ok, told, fun refused => absurd refused taken, fun _ => rfl⟩, fun halt halted => ?_,
    .accepted accepting answer quiet, mirrored.saved ..⟩
  obtain ⟨rfl, unlike⟩ := returns halt halted
  exact ⟨unlike, .inr ⟨⟨_, rfl⟩, told⟩⟩

theorem Accepts.receipted {now : UInt64} {result : Except Halt Outcome}
    (accepted : b.Accepts signals now signal calls result) (heeded : Heeded calls)
    (distinct : (signals.map (·.id)).Nodup) (member : signal ∈ signals) : b.Receipted signal calls result := by
  have taken : ∀ {message}, (b.registry signal.kind).class? signal.type = some message →
      b.defect? signal message = none → ¬ b.Refused signal := by
    intro message known sound refused
    have found := (b.defect?_iff signal message).mpr (refused message known)
    rw [sound] at found
    cases found
  cases accepted with
  | unsupported unknown told =>
      obtain ⟨rfl, acks, mirrored, -⟩ := told.taken heeded distinct member rfl id
      exact .refused (fun message known => by cases unknown.symm.trans known) acks mirrored
  | @unsaved message status error known admitted cause =>
      refine ⟨?_, ?_, .of_refusals (fun id => List.not_mem_nil), .of_silent ⟨rfl, rfl⟩⟩
      · rintro outcome ⟨⟩
      · rintro halt ⟨⟩
        exact ⟨nofun, .inl ⟨⟨status, error, cause, rfl⟩, rfl⟩⟩
  | @refused message defect calls result known found told =>
      obtain ⟨rfl, acks, mirrored, -⟩ := told.taken heeded.tail distinct member rfl id
      refine .refused (fun other same => ?_) acks (mirrored.saved ..)
      cases known.symm.trans same
      exact (b.defect?_iff signal message).mp (Option.isSome_of_eq_some found)
  | @scheduled message calls result known sound delayed told =>
      obtain ⟨rfl, -, mirrored, rest, rfl, quiet⟩ := told.taken heeded.tail distinct member rfl id
      exact .accepted (taken known sound) (by simp) quiet nofun mirrored
  | @untold message calls halt known sound due told =>
      obtain ⟨halted, -⟩ := told.taken heeded.tail distinct member rfl id
      cases halted
  | @carried message calls more result known sound due told done =>
      obtain ⟨-, -, mirrored, rest, rfl, quiet⟩ :=
        told.taken (heeded_append.mp heeded.tail).1 distinct member rfl id
      have silent : acknowledgements (rest ++ more) = [] := by
        rw [acknowledgements_append, quiet, done.silent.1, List.append_nil]
      refine .accepted (taken known sound) (by simp) silent ?_ (mirrored.append (.of_silent done.silent))
      · rintro halt rfl
        exact ⟨rfl, fun error same => done.unmonitored error (congrArg _ same)⟩

theorem Mirrored.mono {more : List Signal} (mirrored : b.Mirrored signals calls)
    (wider : ∀ signal ∈ signals, signal ∈ more) : b.Mirrored more calls := by
  unfold Mirrored at mirrored ⊢
  split
  next watched =>
    rw [if_pos watched] at mirrored
    refine mirrored.imp ?_
    rintro ack event ⟨signal, member, mirrors⟩
    exact ⟨signal, wider signal member, mirrors⟩
  next unwatched =>
    rw [if_neg unwatched] at mirrored
    exact mirrored

/-! Several posts. -/

/-- Signals that are posted together are acknowledged one after another. -/
theorem Each.receipted {posted : List Signal} {result : Except Halt (List Outcome)}
    (each : Each (fun signal calls result => ∃ now, b.Accepts signals now signal calls result) posted calls result)
    (heeded : Heeded calls) (distinct : (signals.map (·.id)).Nodup)
    (among : ∀ signal ∈ posted, signal ∈ signals) : Each b.Receipted posted calls result := by
  induction each with
  | nil => exact .nil
  | broken here =>
      obtain ⟨now, accepted⟩ := here
      exact .broken (accepted.receipted heeded distinct (among _ List.mem_cons_self))
  | next here later ih =>
      obtain ⟨now, accepted⟩ := here
      obtain ⟨first, others⟩ := List.forall_mem_cons.mp among
      obtain ⟨heededFirst, heededLater⟩ := heeded_append.mp heeded
      exact .next (accepted.receipted heededFirst distinct first) (ih heededLater others)

theorem Each.collected {posted : List Signal} {result : Except Halt (List Outcome)}
    (each : Each b.Receipted posted calls result) :
    Backed posted calls ∧ b.Mirrored posted calls ∧ ∀ error, result ≠ .error (.monitor error) := by
  induction each with
  | nil => exact ⟨.of_refusals (fun id => List.not_mem_nil), .of_silent ⟨rfl, rfl⟩, nofun⟩
  | @broken signal rest calls halt here =>
      have own : ∀ other ∈ [signal], other ∈ signal :: rest := by simp
      refine ⟨here.backed.mono own, here.mirrored.mono own, ?_⟩
      rintro error ⟨⟩
      exact (here.broken _ rfl).1 error rfl
  | @next signal rest calls more outcome result here later ih =>
      obtain ⟨backed, mirrored, unlike⟩ := ih
      have own : ∀ other ∈ [signal], other ∈ signal :: rest := by simp
      have others : ∀ other ∈ rest, other ∈ signal :: rest := fun other => List.mem_cons_of_mem signal
      refine ⟨(here.backed.mono own).append (backed.mono others),
        (here.mirrored.mono own).append (mirrored.mono others), ?_⟩
      intro error halted
      cases result with
      | ok outcomes => cases halted
      | error halt =>
          cases halted
          exact unlike error rfl

/-- Every signal that is posted, alone or with others of different ids, is acknowledged once: with the
error of its outcome if it is refused, and else as accepted when it has been stored. Only if the first
save fails there is no acknowledgement. Each of them is announced by one system event, in the same
order. Nothing that is published or swept is acknowledged. -/
theorem acknowledged_once (view : b.store.View) (heeds : observer.Heeds) (fuel : Nat) (w : World ω) :
    (∀ signal, ∃ calls,
      b.recorded.post fuel observer.recorded signal (w.recorded []) =
        ((b.post fuel observer signal w).1, (b.post fuel observer signal w).2.recorded calls) ∧
      b.Receipted signal calls (b.post fuel observer signal w).1 ∧
      b.Held view observer [signal] w calls (b.post fuel observer signal w).2) ∧
    (∀ signals, (signals.map (·.id)).Nodup → ∃ calls,
      b.recorded.postAll fuel observer.recorded signals (w.recorded []) =
        ((b.postAll fuel observer signals w).1, (b.postAll fuel observer signals w).2.recorded calls) ∧
      Each b.Receipted signals calls (b.postAll fuel observer signals w).1 ∧
      (∀ error, (b.postAll fuel observer signals w).1 ≠ .error (.monitor error)) ∧
      b.Mirrored signals calls ∧
      b.Held view observer signals w calls (b.postAll fuel observer signals w).2) ∧
    ∃ calls, b.recorded.sweep fuel (w.recorded []) =
        ((b.sweep fuel w).1, (b.sweep fuel w).2.recorded calls) ∧
      acknowledgements calls = [] ∧ announcements calls = [] := by
  refine ⟨fun signal => ?_, fun signals distinct => ?_, ?_⟩
  · obtain ⟨calls, accepted, steps, same⟩ := post_traced (b := b) fuel observer signal w
    have receipted :=
      accepted.receipted (steps.heeded heeds) (List.nodup_singleton _) (List.mem_singleton_self signal)
    exact ⟨calls, same [], receipted, steps.held view receipted.backed⟩
  · obtain ⟨calls, each, steps, same⟩ := postAll_traced (b := b) fuel observer signals w
    have receipted := each.receipted (steps.heeded heeds) distinct fun _ member => member
    obtain ⟨backed, mirrored, unlike⟩ := receipted.collected
    exact ⟨calls, same [], receipted, unlike, mirrored, steps.held view backed⟩
  · obtain ⟨calls, swept, -, same⟩ := sweep_traced (b := b) fuel observer w
    exact ⟨calls, same [], swept.silent⟩

open Sample Office in
/-- An account is opened, and a deposit that names no account is refused. Both are acknowledged, and
both acknowledgements are announced. -/
theorem acknowledged_once_office :
    let opening := posted 1 0 (Branch.opening "a")
    let homeless := { posted 2 0 (Branch.deposit "a") with target := none }
    let signals := [opening, homeless]
    let run := announcing.postAll 9 .discarding signals (opened .none)
    Observer.Heeds (.discarding : Observer Desk) ∧ (signals.map (·.id)).Nodup ∧
      ∃ calls,
        (acknowledgements calls).map (fun ack => (ack.id, ack.status.name)) =
          [(opening.id, "OK"), (homeless.id, "ERROR")] ∧
        (announcements calls).map (fun event => (event.context.origin, event.type)) =
          [(some opening.id, SignalAcknowledged.type.name), (some homeless.id, SignalErrored.type.name)] ∧
        Each announcing.Receipted signals calls run.1 ∧ announcing.Mirrored signals calls ∧
        announcing.Held Office.view .discarding signals (opened .none) calls run.2 := by
  intro opening homeless signals run
  have heeds : Observer.Heeds (.discarding : Observer Desk) := fun _ _ => rfl
  have distinct : (signals.map (·.id)).Nodup := by decide +kernel
  obtain ⟨-, several, -⟩ := acknowledged_once (b := announcing) Office.view heeds 9 (opened .none)
  obtain ⟨calls, same, receipted, -, mirrored, held⟩ := several signals distinct
  have made : (announcing.recorded.postAll 9 (Observer.recorded .discarding) signals
      ((opened .none).recorded [])).2.outside.calls = calls := by
    rw [same]
    rfl
  refine ⟨heeds, distinct, calls, ?_, ?_, ?_⟩
  · rw [← made]
    decide +kernel
  · rw [← made]
    decide +kernel
  · exact ⟨receipted, mirrored, held⟩

end Bus

end Switchboard
