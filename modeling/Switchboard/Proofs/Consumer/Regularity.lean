import Switchboard.Proofs.Bus.Keeping
import Switchboard.Proofs.Signal.Essence

namespace Switchboard

/-! Consumers that depend on nothing but what is delivered to them. -/

variable {ω μ : Type}

/-- What comes of a signal depends on no id, on no time and on nothing outside. -/
def Consumer.Regular (c : Consumer ω) : Prop :=
  ∀ {signal other : Signal}, signal.essence = other.essence → ∀ w v,
    (c.deliver signal w).1.map Outcome.essence = (c.deliver other v).1.map Outcome.essence

/-- The consumer leaves the records of signals alone. What it gives are events with new ids. -/
structure Consumer.Tidy {store : SignalStore ω} (view : store.View) (c : Consumer ω) : Prop where
  records : c.Keeps view.record
  draws : ∀ signal (w : World ω), w.supply.Yields (c.deliver signal w).1 (c.deliver signal w).2.supply
  events : ∀ signal (w : World ω) outcome, (c.deliver signal w).1 = .ok outcome →
    ∀ event ∈ outcome.followUps, event.kind = .event

/-- The method may read the context, but neither its time nor what the signal comes from. -/
def HandlerMethod.Regular (m : HandlerMethod ω) : Prop :=
  ∀ payload {context other : SignalContext}, context.essence = other.essence → ∀ outside later,
    (m.invoke payload context outside).1 = (m.invoke payload other later).1

theorem HandlerMethod.regular_reading {t : MessageType μ} {takesContext : Bool}
    {handle : μ → SignalContext → StateM ω HandlerResult}
    (same : ∀ message {context other : SignalContext}, context.essence = other.essence → ∀ outside later,
      (handle message context outside).1 = (handle message other later).1) :
    (HandlerMethod.reading t takesContext handle).Regular := by
  intro payload context other alike outside later
  simp only [reading]
  cases payload.decode t.decode with
  | ok message => exact same message alike outside later
  | error error => rfl

namespace Consumer

theorem Regular.of_methods {set : HandlerSet ω} (regular : ∀ m ∈ set.methods, m.Regular) :
    (handlers set).Regular := by
  intro signal other same w v
  simp only [deliver, HandlerSet.handle, ← Signal.type_of_essence same]
  cases found : set.method? signal.type with
  | none => rfl
  | some m =>
      have given := regular m (List.mem_of_find?_eq_some found) signal.payload (Signal.context_of_essence same)
        w.outside v.outside
      rw [Signal.payload_of_essence same] at given ⊢
      simp only [Computation.bind_apply, Computation.outside_apply, Computation.pure_apply, given]
      cases (m.invoke other.payload other.context v.outside).1 with
      | error error => exact congrArg Except.ok (ofHandlerError_essence same error _ _)
      | ok messages =>
          have made := mapM_essence
            (fun message => produced_essence same message set.id none) messages w.supply v.supply
          exact congrArg (fun events => Except.ok (SignalStatus.ok, events)) made

theorem Apart.tidy {store : SignalStore ω} {view : store.View} {c : Consumer ω} (apart : c.Apart view) :
    c.Tidy view where
  records signal w := (apart.deliver signal w).1
  draws signal w := (apart.deliver signal w).2
  events _ _ _ answered event member := (apart.plain.inherits answered event member).kind

end Consumer

end Switchboard
