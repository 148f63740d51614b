import Switchboard.Outcome
import Switchboard.Proofs.Computation
import Switchboard.Signal.Record

namespace Switchboard

/-! What a signal is apart from ids and times. -/

variable {α : Type}

def SignalContext.essence (c : SignalContext) : SignalContext := { c with timestamp := 0, origin := none }

def Signal.essence (s : Signal) : Signal := { s with id := ⟨.ofNat 0⟩, context := s.context.essence }

/-- How an outcome counts for its signal, and what is published after it. -/
def Outcome.essence (outcome : Outcome) : SignalStatus × List Signal :=
  (outcome.status, outcome.followUps.map Signal.essence)

/-- What was stored, and how it ended. -/
def SignalRecord.essence (r : SignalRecord) : Signal × SignalStatus := (r.signal.essence, r.status)

variable {signal other : Signal}

theorem Signal.kind_of_essence (same : signal.essence = other.essence) : signal.kind = other.kind := by
  injection same

theorem Signal.type_of_essence (same : signal.essence = other.essence) : signal.type = other.type := by
  injection same

theorem Signal.payload_of_essence (same : signal.essence = other.essence) : signal.payload = other.payload := by
  injection same

theorem Signal.context_of_essence (same : signal.essence = other.essence) :
    signal.context.essence = other.context.essence := by
  injection same

theorem produced_essence (same : signal.essence = other.essence) (message : EventMessage) (producer : String)
    (version : Option UInt64) (u v : Supply) :
    (Signal.produced message signal producer version u).1.essence =
      (Signal.produced message other producer version v).1.essence := by
  obtain ⟨_, _, _, _, _, ⟨_, _, _, _, _, _, _, _, _⟩⟩ := signal
  obtain ⟨_, _, _, _, _, ⟨_, _, _, _, _, _, _, _, _⟩⟩ := other
  simp only [Signal.essence, SignalContext.essence, Signal.mk.injEq, SignalContext.mk.injEq] at same
  obtain ⟨-, -, -, rfl, -, rfl, rfl, -, -, -, rfl, -, -, rfl⟩ := same
  rfl

theorem mapM_essence {make remake : α → StateM Supply Signal}
    (same : ∀ item u v, (make item u).1.essence = (remake item v).1.essence) (items : List α) (u v : Supply) :
    (items.mapM make u).1.map Signal.essence = (items.mapM remake v).1.map Signal.essence := by
  induction items generalizing u v with
  | nil => rfl
  | cons item rest ih =>
      simp only [List.mapM_cons, Computation.bind_apply, Computation.pure_apply, List.map_cons, same item u v]
      rw [ih]

theorem ofHandlerError_essence (same : signal.essence = other.essence) (error : HandlerError) (u v : Supply) :
    (Outcome.ofHandlerError error signal u).1.essence = (Outcome.ofHandlerError error other v).1.essence := by
  cases error with
  | failed type message => rfl
  | rejected rejection =>
      exact congrArg (fun event => (SignalStatus.rejected, [event]))
        (produced_essence same rejection.eventMessage Rejection.producer none u v)

end Switchboard
