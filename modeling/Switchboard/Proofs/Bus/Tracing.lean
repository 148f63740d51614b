import Switchboard.Proofs.Bus.Recording
import Switchboard.Proofs.Signal.Drawing

namespace Switchboard

/-! What the record of a run looks like. Each part of the pipeline has a relation between the
calls that it makes and the result that it comes to, and the recorded bus keeps to it. -/

variable {ω α β : Type}

namespace Run

def stored (answer : Except StorageError α) : Except Halt α :=
  answer.mapError fun error => .error (.storage error)

def notified (answer : Except MonitorError Unit) : Except Halt Unit := answer.mapError .monitor

theorem bind_ok {program : Run ω α} {next : α → Run ω β} {w after : World ω} {value : α}
    (done : program w = (.ok value, after)) : (program >>= next) w = next value after := by
  change (ExceptT.bindCont next (program w).1) (program w).2 = _
  rw [done]
  rfl

theorem bind_error {program : Run ω α} {next : α → Run ω β} {w after : World ω} {halt : Halt}
    (broken : program w = (.error halt, after)) : (program >>= next) w = (.error halt, after) := by
  change (ExceptT.bindCont next (program w).1) (program w).2 = _
  rw [broken]
  rfl

theorem of_bind_ok {program : Run ω α} {next : α → Run ω β} {w after : World ω} {value : β}
    (done : (program >>= next) w = (.ok value, after)) :
    ∃ first middle, program w = (.ok first, middle) ∧ next first middle = (.ok value, after) := by
  rcases ran : program w with ⟨halt | first, middle⟩
  · rw [bind_error ran] at done
    cases done
  · rw [bind_ok ran] at done
    exact ⟨first, middle, rfl, done⟩

theorem acting_apply (act : Act ω α) (w : World ω) :
    acting act w = (.ok (act w).1, (act w).2) := rfl

theorem storing_apply (call : StateM ω (Except StorageError α)) (w : World ω) :
    storing call w = (stored (call w.outside).1, ⟨w.supply, (call w.outside).2⟩) := by
  rw [storing, bind_ok (acting_apply _ w), Computation.outside_apply]
  rcases call w.outside with ⟨_ | _, after⟩ <;> rfl

theorem notifying_apply (observer : Observer ω) (ack : Ack) (w : World ω) :
    notifying observer ack w = (notified (observer ack w).1, (observer ack w).2) := by
  rw [notifying, bind_ok (acting_apply _ w)]
  rcases observer ack w with ⟨_ | _, after⟩ <;> rfl

end Run

namespace Bus

/-- How calls lead from one world to another. -/
inductive Steps (b : Bus ω) (observer : Observer ω) : World ω → List Call → World ω → Prop where
  | refl (w : World ω) : Steps b observer w [] w
  | trans {u v w : World ω} {before after : List Call} (first : Steps b observer u before v)
      (last : Steps b observer v after w) : Steps b observer u (before ++ after) w
  /-- The clock is read, or the id of a system event drawn. -/
  | draw (w : World ω) {later : Supply} (draws : w.supply.Draws [] later) :
      Steps b observer w [] ⟨later, w.outside⟩
  | save (w : World ω) (signal : Signal) (status : SignalStatus) (error : Option ErrorRecord) :
      Steps b observer w [.save signal status error (b.store.save signal status error w.outside).1]
        ⟨w.supply, (b.store.save signal status error w.outside).2⟩
  | scheduled (w : World ω) :
      Steps b observer w [.scheduled (b.store.scheduled w.outside).1]
        ⟨w.supply, (b.store.scheduled w.outside).2⟩
  | claim (w : World ω) (id : SignalId) :
      Steps b observer w [.claim id (b.store.claim id w.outside).1]
        ⟨w.supply, (b.store.claim id w.outside).2⟩
  | deliver (w : World ω) {kind : SignalKind} {type : String} {c : Consumer ω}
      (member : c ∈ (b.registry kind).consumers type) (signal : Signal) :
      Steps b observer w [.deliver c.id signal (c.deliver signal w).1] (c.deliver signal w).2
  | acknowledge (w : World ω) (ack : Ack) :
      Steps b observer w [.acknowledge ack (observer ack w).1] (observer ack w).2
  | announce (w : World ω) {post : Signal → StateM ω Unit} (system : b.system = some post)
      (event : Signal) :
      Steps b observer w [.announce event] ⟨w.supply, (post event w.outside).2⟩

/-- From a world, a program on the recorded bus comes to what the plain one comes to, by calls
of a certain shape that lead there. -/
def Traced (b : Bus ω) (observer : Observer ω) (w : World ω) (program : Run (Recorded ω) α)
    (plain : Run ω α) (shape : List Call → Except Halt α → Prop) : Prop :=
  ∃ calls, shape calls (plain w).1 ∧ b.Steps observer w calls (plain w).2 ∧
    ∀ earlier, program (w.recorded earlier) =
      ((plain w).1, (plain w).2.recorded (earlier ++ calls))

section Traced

variable {b : Bus ω} {observer : Observer ω} {w : World ω} {program : Run (Recorded ω) α}
  {plain : Run ω α} {shape other : List Call → Except Halt α → Prop}

theorem Traced.mono (traced : b.Traced observer w program plain shape)
    (more : ∀ {calls result}, shape calls result → other calls result) :
    b.Traced observer w program plain other := by
  obtain ⟨calls, shaped, steps, same⟩ := traced
  exact ⟨calls, more shaped, steps, same⟩

/-- A program after another: either the first breaks off, or its value goes on to the second. -/
theorem Traced.bind {next : α → Run (Recorded ω) β} {plainNext : α → Run ω β}
    {last : α → List Call → Except Halt β → Prop}
    (first : b.Traced observer w program plain shape)
    (later : ∀ value after, plain w = (.ok value, after) →
      b.Traced observer after (next value) (plainNext value) (last value)) :
    b.Traced observer w (program >>= next) (plain >>= plainNext) fun calls result =>
      (∃ halt, shape calls (.error halt) ∧ result = .error halt) ∨
        ∃ before value after, calls = before ++ after ∧ shape before (.ok value) ∧
          last value after result := by
  obtain ⟨calls, shaped, steps, same⟩ := first
  rcases ran : plain w with ⟨halt | value, after⟩
  · rw [ran] at shaped steps same
    have broken : (plain >>= plainNext) w = _ := Run.bind_error ran
    refine ⟨calls, ?_, ?_, ?_⟩
    · rw [broken]
      exact .inl ⟨halt, shaped, rfl⟩
    · rw [broken]
      exact steps
    · intro earlier
      rw [broken, Run.bind_error (same earlier)]
  · obtain ⟨more, shapedMore, stepsMore, sameMore⟩ := later value after ran
    rw [ran] at shaped steps same
    have gone : (plain >>= plainNext) w = _ := Run.bind_ok ran
    refine ⟨calls ++ more, ?_, ?_, ?_⟩
    · rw [gone]
      exact .inr ⟨calls, value, more, rfl, shaped, shapedMore⟩
    · rw [gone]
      exact steps.trans stepsMore
    · intro earlier
      rw [gone, Run.bind_ok (same earlier), sameMore, List.append_assoc]

theorem Traced.pure (value : α) :
    b.Traced observer w (Pure.pure value) (Pure.pure value) fun calls result =>
      calls = [] ∧ result = .ok value :=
  ⟨[], ⟨rfl, rfl⟩, .refl w, fun earlier => by rw [List.append_nil]; rfl⟩

/-- What is done with the value of a program makes no call. -/
theorem Traced.map {f : α → β} (traced : b.Traced observer w program plain shape) :
    b.Traced observer w (do return f (← program)) (do return f (← plain)) fun calls result =>
      ∃ given, shape calls given ∧ result = given.map f := by
  refine (traced.bind fun value after _ => Traced.pure (f value)).mono ?_
  rintro calls result (⟨halt, shaped, rfl⟩ | ⟨before, value, after, rfl, shaped, rfl, rfl⟩)
  · exact ⟨_, shaped, rfl⟩
  · rw [List.append_nil]
    exact ⟨_, shaped, rfl⟩

theorem Traced.storing {step : StateM ω (Except StorageError α)} {call : Except StorageError α → Call}
    (steps : b.Steps observer w [call (step w.outside).1] ⟨w.supply, (step w.outside).2⟩) :
    b.Traced observer w (Run.storing (Recorded.noting call step)) (Run.storing step)
      fun calls result => ∃ answer, calls = [call answer] ∧ result = Run.stored answer := by
  refine ⟨[call (step w.outside).1], ?_, ?_, ?_⟩
  · rw [Run.storing_apply]
    exact ⟨_, rfl, rfl⟩
  · rw [Run.storing_apply]
    exact steps
  · intro earlier
    rw [Run.storing_apply, Run.storing_apply]
    rfl

/-- A call of the store and what follows it. A call that fails is the last thing that is done. -/
theorem Traced.storing_bind {step : StateM ω (Except StorageError α)} {call : Except StorageError α → Call}
    {next : α → Run (Recorded ω) β} {plainNext : α → Run ω β} {last : α → List Call → Except Halt β → Prop}
    (steps : b.Steps observer w [call (step w.outside).1] ⟨w.supply, (step w.outside).2⟩)
    (later : ∀ value after, b.Traced observer after (next value) (plainNext value) (last value)) :
    b.Traced observer w (Run.storing (Recorded.noting call step) >>= next)
      (Run.storing step >>= plainNext) fun calls result =>
        (∃ cause, calls = [call (.error cause)] ∧ result = .error (.error (.storage cause))) ∨
          ∃ value more, calls = call (.ok value) :: more ∧ last value more result := by
  refine ((Traced.storing steps).bind fun value after _ => later value after).mono ?_
  rintro calls result (⟨halt, ⟨answer, rfl, halted⟩, rfl⟩ |
    ⟨_, value, more, rfl, ⟨answer, rfl, answered⟩, done⟩)
  · cases answer with
    | ok value => cases halted
    | error cause =>
        cases halted
        exact .inl ⟨cause, rfl, rfl⟩
  · cases answer with
    | error cause => cases answered
    | ok value =>
        cases answered
        exact .inr ⟨value, more, rfl, done⟩

theorem Traced.drawing {step : StateM Supply α} (draws : w.supply.Draws [] (step w.supply).2) :
    b.Traced observer w (Run.acting (Act.drawing step)) (Run.acting (Act.drawing step))
      fun calls result => calls = [] ∧ result = .ok (step w.supply).1 :=
  ⟨[], ⟨rfl, rfl⟩, .draw w draws, fun earlier => by rw [List.append_nil]; rfl⟩

end Traced

end Bus

end Switchboard
