import Switchboard.Consumer.Basic

namespace Switchboard

/-! Delivering a signal to one consumer. -/

/-- What a bus says of a signal that nobody takes. -/
def unsupportedRecord (signal : Signal) : ErrorRecord :=
  (SignalDefect.unsupported signal.type).record

namespace HandlerSet

/-- Invokes the method for a signal. The events it gives become signals in turn. -/
def handle (h : HandlerSet ω) (signal : Signal) : Act ω Outcome := do
  match h.method? signal.type with
  | none => return .failure (unsupportedRecord signal)
  | some method =>
      match ← Act.outside (method.invoke signal.payload signal.context) with
      | .error error => Act.drawing (Outcome.ofHandlerError error signal)
      | .ok messages =>
          return .success (← Act.drawing (messages.mapM fun message =>
            Signal.produced message signal h.id none))

end HandlerSet

namespace Consumer

/-- The outcome of a signal with a consumer. A model that lacks something has no outcome;
any other error of a dispatcher is a failure. -/
def deliver (c : Consumer ω) (signal : Signal) : Act ω (Except ConfigurationError Outcome) := do
  match c with
  | .handlers set => return .ok (← set.handle signal)
  | .dispatcher d =>
      match ← d.dispatch signal with
      | .ok outcome => return .ok outcome
      | .error (.configuration error) => return .error error
      | .error error => return .ok (.failure error.record)

end Consumer

end Switchboard
