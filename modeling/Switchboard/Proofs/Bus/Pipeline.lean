import Switchboard.Proofs.Bus.Tracing

namespace Switchboard.Bus

/-! The shapes of the pipeline's parts: which calls each makes, in which order, and what it
comes to when some of them fail. -/

variable {ω α β ι : Type}

/-- The calls of items in turn, up to the first that breaks off. -/
inductive Each (shape : ι → List Call → Except Halt α → Prop) :
    List ι → List Call → Except Halt (List α) → Prop where
  | nil : Each shape [] [] (.ok [])
  | broken {item : ι} {rest : List ι} {calls : List Call} {halt : Halt}
      (here : shape item calls (.error halt)) : Each shape (item :: rest) calls (.error halt)
  | next {item : ι} {rest : List ι} {calls more : List Call} {value : α} {result : Except Halt (List α)}
      (here : shape item calls (.ok value)) (later : Each shape rest more result) :
      Each shape (item :: rest) (calls ++ more) (result.map (value :: ·))

/-- One delivery. Only a configuration error breaks it off. -/
inductive Delivers (signal : Signal) (c : Consumer ω) : List Call → Except Halt Outcome → Prop where
  | answered (outcome : Outcome) : Delivers signal c [.deliver c.id signal (.ok outcome)] (.ok outcome)
  | broken (error : ConfigurationError) :
      Delivers signal c [.deliver c.id signal (.error error)] (.error (.error (.configuration error)))

inductive Processes (b : Bus ω) (signal : Signal) :
    List Call → Except Halt (Outcome × List Signal) → Prop where
  | broken {calls : List Call} {halt : Halt}
      (delivered : Each (Delivers signal) ((b.registry signal.kind).consumers signal.type) calls (.error halt)) :
      Processes b signal calls (.error halt)
  | unsettled {calls : List Call} {outcomes : List Outcome} {outcome : Outcome}
      (delivered : Each (Delivers signal) ((b.registry signal.kind).consumers signal.type) calls (.ok outcomes))
      (merged : outcome = settledOutcome signal outcomes) (cause : StorageError) :
      Processes b signal (calls ++ [.save signal outcome.status (settledError outcome) (.error cause)])
        (.error (.error (.storage cause)))
  | settled {calls : List Call} {outcomes : List Outcome} {outcome : Outcome} {followUps : List Signal}
      (delivered : Each (Delivers signal) ((b.registry signal.kind).consumers signal.type) calls (.ok outcomes))
      (merged : outcome = settledOutcome signal outcomes)
      (gathered : followUps = outcomes.flatMap Outcome.followUps) :
      Processes b signal (calls ++ [.save signal outcome.status (settledError outcome) (.ok ())])
        (.ok (outcome, followUps))

inductive Publishes (b : Bus ω) : List Signal → List Call → Except Halt Unit → Prop where
  | done : Publishes b [] [] (.ok ())
  | unfinished {event : Signal} {waiting : List Signal} :
      Publishes b (event :: waiting) [] (.error .unfinished)
  | unsaved {event : Signal} {waiting : List Signal} (error : StorageError) :
      Publishes b (event :: waiting) [.save event .received none (.error error)]
        (.error (.error (.storage error)))
  | broken {event : Signal} {waiting : List Signal} {calls : List Call} {halt : Halt}
      (processed : b.Processes event calls (.error halt)) :
      Publishes b (event :: waiting) (.save event .received none (.ok ()) :: calls) (.error halt)
  | next {event : Signal} {waiting followUps : List Signal} {calls more : List Call} {outcome : Outcome}
      {result : Except Halt Unit}
      (processed : b.Processes event calls (.ok (outcome, followUps)))
      (later : Publishes b (waiting ++ followUps) more result) :
      Publishes b (event :: waiting) (.save event .received none (.ok ()) :: (calls ++ more)) result

inductive CarriesOut (b : Bus ω) (signal : Signal) : List Call → Except Halt Outcome → Prop where
  | broken {calls : List Call} {halt : Halt} (processed : b.Processes signal calls (.error halt)) :
      CarriesOut b signal calls (.error halt)
  | unpublished {calls more : List Call} {outcome : Outcome} {followUps : List Signal} {halt : Halt}
      (processed : b.Processes signal calls (.ok (outcome, followUps)))
      (published : b.Publishes followUps more (.error halt)) :
      CarriesOut b signal (calls ++ more) (.error halt)
  | published {calls more : List Call} {outcome : Outcome} {followUps : List Signal}
      (processed : b.Processes signal calls (.ok (outcome, followUps)))
      (published : b.Publishes followUps more (.ok ())) :
      CarriesOut b signal (calls ++ more) (.ok outcome)

/-- Acknowledging to an observer, and posting the system event if there is where to. -/
inductive Acknowledges (b : Bus ω) (signals : List Signal) (ack : Ack) :
    List Call → Except Halt Unit → Prop where
  | plain (unwatched : b.system = none) (answer : Except MonitorError Unit) :
      Acknowledges b signals ack [.acknowledge ack answer] (Run.notified answer)
  | failed (error : MonitorError) :
      Acknowledges b signals ack [.acknowledge ack (.error error)] (.error (.monitor error))
  | puzzled {supply : Supply} {error : MonitorError}
      (made : ((Monitor.of signals).systemEvent ack supply).1 = .error error) :
      Acknowledges b signals ack [.acknowledge ack (.ok ())] (.error (.monitor error))
  | announced {supply : Supply} {event : Signal} (watched : b.system.isSome = true)
      (made : ((Monitor.of signals).systemEvent ack supply).1 = .ok event) :
      Acknowledges b signals ack [.acknowledge ack (.ok ()), .announce event] (.ok ())

/-- The status that a signal of a supported type is first stored with, and the error. -/
def admission (b : Bus ω) (now : UInt64) (signal : Signal) (message : MessageClass) :
    SignalStatus × Option ErrorRecord :=
  match b.defect? signal message with
  | some defect => (.error, some defect.record)
  | none => if signal.context.isDelayed now then (.scheduled, none) else (.received, none)

inductive Accepts (b : Bus ω) (signals : List Signal) (now : UInt64) (signal : Signal) :
    List Call → Except Halt Outcome → Prop where
  | unsupported {calls : List Call} {result : Except Halt Unit}
      (unknown : (b.registry signal.kind).class? signal.type = none)
      (told : b.Acknowledges signals (.error signal.id (unsupportedRecord signal)) calls result) :
      Accepts b signals now signal calls (result.map fun _ => .failure (unsupportedRecord signal))
  | unsaved {message : MessageClass} {status : SignalStatus} {error : Option ErrorRecord}
      (known : (b.registry signal.kind).class? signal.type = some message)
      (admitted : b.admission now signal message = (status, error)) (cause : StorageError) :
      Accepts b signals now signal [.save signal status error (.error cause)] (.error (.error (.storage cause)))
  | refused {message : MessageClass} {defect : SignalDefect} {calls : List Call} {result : Except Halt Unit}
      (known : (b.registry signal.kind).class? signal.type = some message)
      (found : b.defect? signal message = some defect)
      (told : b.Acknowledges signals (.error signal.id defect.record) calls result) :
      Accepts b signals now signal (.save signal .error (some defect.record) (.ok ()) :: calls)
        (result.map fun _ => .failure defect.record)
  | scheduled {message : MessageClass} {calls : List Call} {result : Except Halt Unit}
      (known : (b.registry signal.kind).class? signal.type = some message)
      (sound : b.defect? signal message = none) (delayed : signal.context.isDelayed now = true)
      (told : b.Acknowledges signals (.ok signal.id) calls result) :
      Accepts b signals now signal (.save signal .scheduled none (.ok ()) :: calls)
        (result.map fun _ => .success [])
  | untold {message : MessageClass} {calls : List Call} {halt : Halt}
      (known : (b.registry signal.kind).class? signal.type = some message)
      (sound : b.defect? signal message = none) (due : signal.context.isDelayed now = false)
      (told : b.Acknowledges signals (.ok signal.id) calls (.error halt)) :
      Accepts b signals now signal (.save signal .received none (.ok ()) :: calls) (.error halt)
  | carried {message : MessageClass} {calls more : List Call} {result : Except Halt Outcome}
      (known : (b.registry signal.kind).class? signal.type = some message)
      (sound : b.defect? signal message = none) (due : signal.context.isDelayed now = false)
      (told : b.Acknowledges signals (.ok signal.id) calls (.ok ()))
      (done : b.CarriesOut signal more result) :
      Accepts b signals now signal (.save signal .received none (.ok ()) :: (calls ++ more)) result

/-- Going through a list of scheduled signals, with what has been reported so far. -/
inductive Sweeps (b : Bus ω) (now : UInt64) :
    List Signal → SweepReport → List Call → Except Halt SweepReport → Prop where
  | done (report : SweepReport) : Sweeps b now [] report [] (.ok report)
  | pending {signal : Signal} {rest : List Signal} {report : SweepReport} {calls : List Call}
      {result : Except Halt SweepReport} (delayed : signal.context.isDelayed now = true)
      (later : Sweeps b now rest { report with pending := report.pending + 1 } calls result) :
      Sweeps b now (signal :: rest) report calls result
  | unclaimed {signal : Signal} {rest : List Signal} {report : SweepReport} (error : StorageError) :
      Sweeps b now (signal :: rest) report [.claim signal.id (.error error)]
        (.error (.error (.storage error)))
  | taken {signal : Signal} {rest : List Signal} {report : SweepReport} {calls : List Call}
      {result : Except Halt SweepReport}
      (later : Sweeps b now rest { report with alreadyClaimed := report.alreadyClaimed + 1 } calls result) :
      Sweeps b now (signal :: rest) report (.claim signal.id (.ok false) :: calls) result
  | broken {signal : Signal} {rest : List Signal} {report : SweepReport} {calls : List Call} {halt : Halt}
      (due : signal.context.isDelayed now = false) (carried : b.CarriesOut signal calls (.error halt)) :
      Sweeps b now (signal :: rest) report (.claim signal.id (.ok true) :: calls) (.error halt)
  | delivered {signal : Signal} {rest : List Signal} {report : SweepReport} {calls more : List Call}
      {outcome : Outcome} {result : Except Halt SweepReport}
      (due : signal.context.isDelayed now = false) (carried : b.CarriesOut signal calls (.ok outcome))
      (later : Sweeps b now rest { report with delivered := report.delivered + 1 } more result) :
      Sweeps b now (signal :: rest) report (.claim signal.id (.ok true) :: (calls ++ more)) result

inductive SweepsDue (b : Bus ω) (now : UInt64) : List Call → Except Halt SweepReport → Prop where
  | unlisted (error : StorageError) :
      SweepsDue b now [.scheduled (.error error)] (.error (.error (.storage error)))
  | listed {signals : List Signal} {calls : List Call} {result : Except Halt SweepReport}
      (swept : b.Sweeps now signals ⟨0, 0, 0⟩ calls result) :
      SweepsDue b now (.scheduled (.ok signals) :: calls) result

section Traced

variable {b : Bus ω} {observer : Observer ω} {w : World ω}

theorem traced_mapM {program : ι → Run (Recorded ω) α} {plain : ι → Run ω α}
    {shape : ι → List Call → Except Halt α → Prop} {items : List ι}
    (each : ∀ item ∈ items, ∀ w, b.Traced observer w (program item) (plain item) (shape item)) (w : World ω) :
    b.Traced observer w (items.mapM program) (items.mapM plain) (Each shape items) := by
  induction items generalizing w with
  | nil =>
      refine (Traced.pure []).mono ?_
      rintro calls result ⟨rfl, rfl⟩
      exact .nil
  | cons item rest ih =>
      obtain ⟨here, others⟩ := List.forall_mem_cons.mp each
      rw [List.mapM_cons, List.mapM_cons]
      refine ((here w).bind fun value after _ => (ih others after).map (f := (value :: ·))).mono ?_
      rintro calls result (⟨halt, shaped, rfl⟩ | ⟨before, value, after, rfl, shaped, given, later, rfl⟩)
      · exact .broken shaped
      · exact .next shaped later

theorem saved_traced (signal : Signal) (status : SignalStatus) (error : Option ErrorRecord) :
    b.Traced observer w (b.recorded.save signal status error) (b.save signal status error)
      fun calls result => ∃ answer, calls = [.save signal status error answer] ∧
        result = Run.stored answer :=
  Traced.storing (.save w signal status error)

theorem deliver_traced (signal : Signal) (w : World ω) :
    b.Traced observer w (b.recorded.deliver signal) (b.deliver signal)
      (Each (Delivers signal) ((b.registry signal.kind).consumers signal.type)) := by
  unfold deliver
  rw [registry_recorded, Registry.consumers_recorded, List.mapM_map]
  refine traced_mapM (fun c member w => ?_) w
  have steps : b.Steps observer w _ _ := .deliver w member signal
  refine ⟨[.deliver c.id signal (c.deliver signal w).1], ?_⟩
  rw [Run.bind_ok (Run.acting_apply _ w)]
  simp only [Function.comp_apply, Consumer.deliver_recorded, Run.bind_ok (Run.acting_apply _ _),
    Act.noted_apply]
  rcases delivered : c.deliver signal w with ⟨error | outcome, after⟩
  · rw [delivered] at steps
    exact ⟨.broken error, steps, fun _ => rfl⟩
  · rw [delivered] at steps
    exact ⟨.answered outcome, steps, fun _ => rfl⟩

theorem process_traced (signal : Signal) (w : World ω) :
    b.Traced observer w (b.recorded.process signal) (b.process signal) (b.Processes signal) := by
  refine ((deliver_traced signal w).bind fun outcomes after _ =>
    (saved_traced signal (settledOutcome signal outcomes).status
      (settledError (settledOutcome signal outcomes))).map
        (f := fun _ => (settledOutcome signal outcomes, outcomes.flatMap Outcome.followUps))).mono ?_
  rintro calls result (⟨halt, delivered, rfl⟩ |
    ⟨before, outcomes, after, rfl, delivered, given, ⟨answer, rfl, rfl⟩, rfl⟩)
  · exact .broken delivered
  · cases answer with
    | error cause => exact .unsettled delivered rfl cause
    | ok done => exact .settled delivered rfl rfl

theorem publish_traced (fuel : Nat) (events : List Signal) (w : World ω) :
    b.Traced observer w (b.recorded.publish fuel events) (b.publish fuel events) (b.Publishes events) := by
  induction fuel generalizing events w with
  | zero =>
      cases events with
      | nil => exact ⟨[], .done, .refl w, fun earlier => by rw [List.append_nil]; rfl⟩
      | cons event waiting =>
          exact ⟨[], .unfinished, .refl w, fun earlier => by rw [List.append_nil]; rfl⟩
  | succ fuel ih =>
      cases events with
      | nil => exact ⟨[], .done, .refl w, fun earlier => by rw [List.append_nil]; rfl⟩
      | cons event waiting =>
          refine (Traced.storing_bind (.save w event .received none) fun _ middle =>
            (process_traced event middle).bind fun processed after _ =>
              ih (waiting ++ processed.2) after).mono ?_
          rintro calls result (⟨cause, rfl, rfl⟩ | ⟨_, more, rfl, ⟨halt, processed, rfl⟩ |
            ⟨before, ⟨outcome, followUps⟩, after, rfl, processed, later⟩⟩)
          · exact .unsaved cause
          · exact .broken processed
          · exact .next processed later

theorem carryOut_traced (fuel : Nat) (signal : Signal) (w : World ω) :
    b.Traced observer w (b.recorded.carryOut fuel signal) (b.carryOut fuel signal)
      (b.CarriesOut signal) := by
  refine ((process_traced signal w).bind fun processed after _ =>
    (publish_traced fuel processed.2 after).map (f := fun _ => processed.1)).mono ?_
  rintro calls result (⟨halt, processed, rfl⟩ |
    ⟨before, ⟨outcome, followUps⟩, after, rfl, processed, given, published, rfl⟩)
  · exact .broken processed
  · cases given with
    | error halt => exact .unpublished processed published
    | ok done => exact .published processed published

section Monitor

variable {m : Monitor} {next : Observer ω} {post : Signal → StateM ω Unit} {ack : Ack} {after : World ω}
  {later : Supply}

theorem systemEvent_draws (m : Monitor) (ack : Ack) (supply : Supply) :
    supply.Draws [] (m.systemEvent ack supply).2 := by
  unfold Monitor.systemEvent
  cases m.signals.find? ack.id with
  | none => exact .refl supply
  | some signal =>
      cases Monitor.message ack with
      | error error => exact .refl supply
      | ok message => exact (produced_draws message signal Monitor.producer none supply).none

theorem observer_failed {error : MonitorError} (answered : next ack w = (.error error, after)) :
    m.observer next post ack w = (.error error, after) := by
  simp only [Monitor.observer, Computation.bind_apply, answered, Computation.pure_apply]

theorem observer_puzzled {error : MonitorError} (answered : next ack w = (.ok (), after))
    (made : m.systemEvent ack after.supply = (.error error, later)) :
    m.observer next post ack w = (.error error, ⟨later, after.outside⟩) := by
  simp only [Monitor.observer, Computation.bind_apply, answered, Computation.drawing_apply, made,
    Computation.pure_apply]

theorem observer_announced {event : Signal} (answered : next ack w = (.ok (), after))
    (made : m.systemEvent ack after.supply = (.ok event, later)) :
    m.observer next post ack w = (.ok (), ⟨later, (post event after.outside).2⟩) := by
  simp only [Monitor.observer, Computation.bind_apply, answered, Computation.drawing_apply, made,
    Computation.outside_apply, Computation.pure_apply]

end Monitor

theorem acknowledge_traced (observer : Observer ω) (signals : List Signal) (ack : Ack) (w : World ω) :
    b.Traced observer w (Run.notifying (b.recorded.monitored observer.recorded signals) ack)
      (Run.notifying (b.monitored observer signals) ack) (b.Acknowledges signals ack) := by
  have told : b.Steps observer w _ _ := .acknowledge w ack
  unfold Traced
  simp only [Run.notifying_apply]
  cases system : b.system with
  | none =>
      have same : b.monitored observer signals = observer := by simp [monitored, system]
      have recorded : b.recorded.monitored observer.recorded signals = observer.recorded := by
        simp [monitored, Bus.recorded, system]
      rw [same, recorded]
      exact ⟨_, .plain system _, told, fun earlier => rfl⟩
  | some post =>
      have same : b.monitored observer signals = (Monitor.of signals).observer observer post := by
        simp [monitored, system]
      have recorded : b.recorded.monitored observer.recorded signals =
          (Monitor.of signals).observer observer.recorded
            fun event => Recorded.noting (fun _ => .announce event) (post event) := by
        simp [monitored, Bus.recorded, system]
      rw [same, recorded]
      have noted : ∀ earlier, observer.recorded ack (w.recorded earlier) =
          ((observer ack w).1, (observer ack w).2.recorded (earlier ++ [.acknowledge ack (observer ack w).1])) :=
        fun _ => rfl
      rcases answered : observer ack w with ⟨error | done, after⟩
      · rw [answered] at told noted
        rw [observer_failed answered]
        refine ⟨_, .failed error, told, fun earlier => ?_⟩
        rw [observer_failed (noted earlier)]
      · rw [answered] at told noted
        have drawn := systemEvent_draws (Monitor.of signals) ack after.supply
        rcases made : (Monitor.of signals).systemEvent ack after.supply with ⟨error | event, later⟩
        · rw [made] at drawn
          rw [observer_puzzled answered made]
          refine ⟨_, .puzzled (congrArg Prod.fst made), told.trans (.draw after drawn), fun earlier => ?_⟩
          rw [observer_puzzled (noted earlier) made]
          rfl
        · rw [made] at drawn
          rw [observer_announced answered made]
          refine ⟨_, .announced (by simp [system]) (congrArg Prod.fst made),
            told.trans ((Steps.draw after drawn).trans (.announce _ system event)), fun earlier => ?_⟩
          rw [observer_announced (noted earlier) made]
          exact congrArg (fun calls => (Run.notified (.ok ()), World.recorded ⟨later, _⟩ calls))
            (List.append_assoc earlier _ _)

theorem accept_traced (fuel : Nat) (observer : Observer ω) (signals : List Signal) (signal : Signal)
    (w : World ω) :
    b.Traced observer w
      (b.recorded.accept fuel (b.recorded.monitored observer.recorded signals) signal)
      (b.accept fuel (b.monitored observer signals) signal)
      (b.Accepts signals (Supply.now w.supply).1 signal) := by
  unfold accept
  rw [registry_recorded, Registry.class?_recorded]
  cases known : (b.registry signal.kind).class? signal.type with
  | none =>
      refine ((acknowledge_traced observer signals _ w).map
        (f := fun _ => Outcome.failure (unsupportedRecord signal))).mono ?_
      rintro calls result ⟨given, told, rfl⟩
      exact .unsupported known told
  | some message =>
      simp only [defect?_recorded]
      cases found : b.defect? signal message with
      | some defect =>
          have admitted : b.admission (Supply.now w.supply).1 signal message = (.error, some defect.record) := by
            simp [admission, found]
          refine (Traced.storing_bind (.save w signal .error (some defect.record)) fun _ after =>
            (acknowledge_traced observer signals _ after).map
              (f := fun _ => Outcome.failure defect.record)).mono ?_
          rintro calls result (⟨cause, rfl, rfl⟩ | ⟨_, more, rfl, given, told, rfl⟩)
          · exact .unsaved known admitted cause
          · exact .refused known found told
      | none =>
          have clock : b.Traced observer w _ _ _ := Traced.drawing (Supply.now_draws w.supply)
          refine (clock.bind fun now after _ =>
            (?_ : b.Traced observer after _ _ (b.Accepts signals now signal))).mono ?_
          · by_cases delayed : signal.context.isDelayed now = true
            · have admitted : b.admission now signal message = (.scheduled, none) := by
                simp [admission, found, delayed]
              rw [if_pos delayed, if_pos delayed]
              refine (Traced.storing_bind (.save after signal .scheduled none) fun _ after =>
                (acknowledge_traced observer signals _ after).map
                  (f := fun _ => Outcome.success [])).mono ?_
              rintro calls result (⟨cause, rfl, rfl⟩ | ⟨_, more, rfl, given, told, rfl⟩)
              · exact .unsaved known admitted cause
              · exact .scheduled known found delayed told
            · have due : signal.context.isDelayed now = false := by simpa using delayed
              have admitted : b.admission now signal message = (.received, none) := by
                simp [admission, found, due]
              rw [if_neg delayed, if_neg delayed]
              refine (Traced.storing_bind (.save after signal .received none) fun _ middle =>
                (acknowledge_traced observer signals _ middle).bind fun _ after _ =>
                  carryOut_traced fuel signal after).mono ?_
              rintro calls result (⟨cause, rfl, rfl⟩ | ⟨_, more, rfl, ⟨halt, told, rfl⟩ |
                ⟨before, _, after, rfl, told, carried⟩⟩)
              · exact .unsaved known admitted cause
              · exact .untold known found due told
              · exact .carried known found due told carried
          · rintro calls result (⟨halt, ⟨-, halted⟩, -⟩ | ⟨_, now, after, rfl, ⟨rfl, read⟩, accepted⟩)
            · cases halted
            · cases read
              exact accepted

theorem post_traced (fuel : Nat) (observer : Observer ω) (signal : Signal) (w : World ω) :
    b.Traced observer w (b.recorded.post fuel observer.recorded signal) (b.post fuel observer signal)
      (b.Accepts [signal] (Supply.now w.supply).1 signal) :=
  accept_traced fuel observer [signal] signal w

theorem postAll_traced (fuel : Nat) (observer : Observer ω) (signals : List Signal) (w : World ω) :
    b.Traced observer w (b.recorded.postAll fuel observer.recorded signals)
      (b.postAll fuel observer signals)
      (Each (fun signal calls result => ∃ now, b.Accepts signals now signal calls result) signals) :=
  traced_mapM (fun signal _ w => (accept_traced fuel observer signals signal w).mono
    fun accepted => ⟨_, accepted⟩) w

theorem sweeps_traced (fuel : Nat) (observer : Observer ω) (now : UInt64) (signals : List Signal)
    (report : SweepReport) (w : World ω) :
    b.Traced observer w (signals.foldlM (b.recorded.sweepSignal fuel now) report)
      (signals.foldlM (b.sweepSignal fuel now) report) (b.Sweeps now signals report) := by
  induction signals generalizing report w with
  | nil =>
      refine (Traced.pure report).mono ?_
      rintro calls result ⟨rfl, rfl⟩
      exact .done report
  | cons signal rest ih =>
      simp only [List.foldlM_cons, sweepSignal]
      by_cases delayed : signal.context.isDelayed now = true
      · rw [if_pos delayed, if_pos delayed, pure_bind, pure_bind]
        exact (ih _ w).mono (.pending delayed)
      · have due : signal.context.isDelayed now = false := by simpa using delayed
        rw [if_neg delayed, if_neg delayed, bind_assoc, bind_assoc]
        refine (Traced.storing_bind (.claim w signal.id) fun claimed after =>
          (?_ : b.Traced observer after _ _ fun calls result =>
            b.Sweeps now (signal :: rest) report (.claim signal.id (.ok claimed) :: calls) result)).mono ?_
        · cases claimed with
          | false =>
              rw [if_neg Bool.false_ne_true, if_neg Bool.false_ne_true, pure_bind, pure_bind]
              exact (ih _ after).mono .taken
          | true =>
              rw [if_pos rfl, if_pos rfl]
              simp only [bind_assoc, pure_bind, discard]
              refine (((carryOut_traced fuel signal after).map (f := fun _ => ())).bind fun _ later _ =>
                ih { report with delivered := report.delivered + 1 } later).mono ?_
              rintro calls result (⟨halt, ⟨given, carried, halted⟩, rfl⟩ |
                ⟨before, _, more, rfl, ⟨given, carried, done⟩, swept⟩)
              · cases given with
                | ok outcome => cases halted
                | error cause =>
                    cases halted
                    exact .broken due carried
              · cases given with
                | error cause => cases done
                | ok outcome => exact .delivered due carried swept
        · rintro calls result (⟨cause, rfl, rfl⟩ | ⟨claimed, more, rfl, swept⟩)
          · exact .unclaimed cause
          · exact swept

theorem sweepDue_traced (fuel : Nat) (observer : Observer ω) (now : UInt64) (w : World ω) :
    b.Traced observer w (b.recorded.sweepDue fuel now) (b.sweepDue fuel now) (b.SweepsDue now) := by
  refine (Traced.storing_bind (.scheduled w) fun signals after =>
    sweeps_traced fuel observer now signals ⟨0, 0, 0⟩ after).mono ?_
  rintro calls result (⟨cause, rfl, rfl⟩ | ⟨signals, more, rfl, swept⟩)
  · exact .unlisted cause
  · exact .listed swept

theorem sweep_traced (fuel : Nat) (observer : Observer ω) (w : World ω) :
    b.Traced observer w (b.recorded.sweep fuel) (b.sweep fuel) (b.SweepsDue (Supply.now w.supply).1) := by
  have clock : b.Traced observer w _ _ _ := Traced.drawing (Supply.now_draws w.supply)
  refine (clock.bind fun now after _ => sweepDue_traced fuel observer now after).mono ?_
  rintro calls result (⟨halt, ⟨-, halted⟩, -⟩ | ⟨_, now, after, rfl, ⟨rfl, read⟩, swept⟩)
  · cases halted
  · cases read
    exact swept

end Traced

end Switchboard.Bus
