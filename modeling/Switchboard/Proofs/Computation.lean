import Switchboard.World

namespace Switchboard.Computation

/-! How computations on a state come apart, step by step. -/

variable {ω α β : Type}

@[simp] theorem bind_apply (step : StateM ω α) (next : α → StateM ω β) (s : ω) :
    (step >>= next) s = next (step s).1 (step s).2 := rfl

@[simp] theorem pure_apply (value : α) (s : ω) : (pure value : StateM ω α) s = (value, s) := rfl

@[simp] theorem map_apply (f : α → β) (step : StateM ω α) (s : ω) :
    (f <$> step) s = (f (step s).1, (step s).2) := rfl

@[simp] theorem get_apply (s : ω) : (get : StateM ω ω) s = (s, s) := rfl

@[simp] theorem modify_apply (f : ω → ω) (s : ω) : (modify f : StateM ω Unit) s = ((), f s) := rfl

@[simp] theorem drawing_apply (step : StateM Supply α) (w : World ω) :
    Act.drawing step w = ((step w.supply).1, ⟨(step w.supply).2, w.outside⟩) := rfl

@[simp] theorem outside_apply (step : StateM ω α) (w : World ω) :
    Act.outside step w = ((step w.outside).1, ⟨w.supply, (step w.outside).2⟩) := rfl

/-! ## Two states, one of them beside the computation -/

section Beside

variable {ν : Type}

@[simp] theorem bind_beside (step : StateT ω (StateM ν) α) (next : α → StateT ω (StateM ν) β) (s : ω) (u : ν) :
    (step >>= next) s u = next (step s u).1.1 (step s u).1.2 (step s u).2 := rfl

@[simp] theorem pure_beside (value : α) (s : ω) (u : ν) :
    (pure value : StateT ω (StateM ν) α) s u = ((value, s), u) := rfl

@[simp] theorem modifyGet_beside (step : StateM ω α) (s : ω) (u : ν) :
    (modifyGet step : StateT ω (StateM ν) α) s u = (step s, u) := rfl

end Beside

/-! ## Computations that can fail -/

section Failing

variable {m : Type → Type} [Monad m] [LawfulMonad m] {ε ν : Type}

@[simp] theorem get_bind (next : ω → ExceptT ε (StateT ω m) β) (s : ω) : (get >>= next) s = next s s := by
  change ((get : ExceptT ε (StateT ω m) ω) >>= next).run.run s = (next s).run.run s
  rw [ExceptT.run_bind, StateT.run_bind]
  exact (congrArg (· >>= _) (pure_bind (s, s) _)).trans (pure_bind (Except.ok s, s) _)

@[simp] theorem ok_bind (value : α) (next : α → ExceptT ε (StateT ω m) β) (s : ω) :
    (liftM (Except.ok value : Except ε α) >>= next) s = next value s :=
  pure_bind (Except.ok value, s) _

@[simp] theorem error_bind (error : ε) (next : α → ExceptT ε (StateT ω m) β) (s : ω) :
    (liftM (Except.error error : Except ε α) >>= next) s = pure (.error error, s) := pure_bind _ _

@[simp] theorem draw_bind (step : StateM ν α) (next : α → ExceptT ε (StateT ω (StateM ν)) β) (s : ω) (u : ν) :
    (liftM step >>= next) s u = next (step u).1 s (step u).2 := rfl

variable {step : ExceptT ε (StateM ω) α} {next : α → ExceptT ε (StateM ω) β} {value : α} {error : ε} {s t : ω}

theorem bind_of_ok (ran : step s = (.ok value, t)) : (step >>= next) s = next value t := by
  change StateT.bind step (ExceptT.bindCont next) s = _
  rw [StateT.bind, ran]
  rfl

theorem bind_of_error (ran : step s = (.error error, t)) : (step >>= next) s = (.error error, t) := by
  change StateT.bind step (ExceptT.bindCont next) s = _
  rw [StateT.bind, ran]
  rfl

theorem eq_of_isOk {step : ExceptT ε (StateM ω) Unit} (ended : (step s).1.isOk = true) :
    step s = (.ok (), (step s).2) := by
  rcases ran : step s with ⟨_ | _, t⟩
  · rw [ran] at ended
    cases ended
  · rfl

/-- A loop that ends well has gone well through its first item and then through the rest. -/
theorem forM_cons_ok_iff {each : α → ExceptT ε (StateM ω) PUnit} {item : α} {rest : List α} :
    (item :: rest).forM each s = (.ok ⟨⟩, t) ↔
      ∃ middle, each item s = (.ok ⟨⟩, middle) ∧ rest.forM each middle = (.ok ⟨⟩, t) := by
  constructor
  · intro ended
    rcases ran : each item s with ⟨_ | _, middle⟩
    · cases ended.symm.trans (bind_of_error ran)
    · exact ⟨middle, rfl, (bind_of_ok ran).symm.trans ended⟩
  · rintro ⟨middle, first, ended⟩
    exact (bind_of_ok first).trans ended

end Failing

/-- The step does not tell alike states apart, and leaves them alike. -/
def Blind (alike : ω → ω → Prop) (step : StateM ω α) : Prop :=
  ∀ ⦃u v⦄, alike u v → (step u).1 = (step v).1 ∧ alike (step u).2 (step v).2

namespace Blind

variable {alike : ω → ω → Prop} {step : StateM ω α}

theorem pure (value : α) : Blind alike (Pure.pure value) := fun _ _ same => ⟨rfl, same⟩

theorem bind {next : α → StateM ω β} (first : Blind alike step) (later : ∀ value, Blind alike (next value)) :
    Blind alike (step >>= next) := by
  intro u v same
  obtain ⟨value, after⟩ := first same
  simp only [bind_apply, value]
  exact later _ after

theorem map (f : α → β) (blind : Blind alike step) : Blind alike (f <$> step) := by
  intro u v same
  obtain ⟨value, after⟩ := blind same
  exact ⟨congrArg f value, after⟩

theorem mapM {make : α → StateM ω β} (each : ∀ item, Blind alike (make item)) (items : List α) :
    Blind alike (items.mapM make) := by
  induction items with
  | nil => exact pure []
  | cons item rest ih =>
      rw [List.mapM_cons]
      exact (each item).bind fun _ => ih.bind fun _ => pure _

end Blind

end Switchboard.Computation
