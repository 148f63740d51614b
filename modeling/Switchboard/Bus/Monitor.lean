import Switchboard.Acknowledgement
import Switchboard.Table
import Switchboard.World

namespace Switchboard

/-! System events, which tell of acknowledgements. -/

structure SignalAcknowledged where
  id : SignalId
deriving DecidableEq, Repr

namespace SignalAcknowledged

def type : MessageType SignalAcknowledged :=
  .plain "eventfold.system.SignalAcknowledged"
    (.record "SignalAcknowledged" (mk <$> .required "id" SignalId.decode))
    fun m => .object [("id", m.id.encode)]

end SignalAcknowledged

structure SignalErrored where
  id : SignalId
  error : ErrorRecord
deriving DecidableEq, Repr

namespace SignalErrored

def type : MessageType SignalErrored :=
  .plain "eventfold.system.SignalErrored"
    (.record "SignalErrored"
      (mk <$> .required "id" SignalId.decode <*> .required "error" ErrorRecord.decode))
    fun m => .object [("error", m.error.encode), ("id", m.id.encode)]

end SignalErrored

/-- Takes acknowledgements. It fails only if it cannot make sense of one. -/
abbrev Observer (ω : Type) := Ack → Act ω (Except MonitorError Unit)

namespace Observer

/-- Takes note of nothing. -/
def discarding : Observer ω := fun _ => return .ok ()

def recording (note : Ack → StateM ω Unit) : Observer ω := fun ack => do
  Act.outside (note ack)
  return .ok ()

end Observer

/-- The signals that acknowledgements are expected of. -/
structure Monitor where
  signals : Table SignalId Signal

namespace Monitor

def producer : String := "eventfold.system"

/-- Of several signals with one id the last counts. -/
def of (signals : List Signal) : Monitor :=
  ⟨.ofList (signals.map fun signal => (signal.id, signal))⟩

/-- The message of the system event. -/
def message (ack : Ack) : Except MonitorError EventMessage :=
  let encoded (event : Except EncodeError EventMessage) : Except MonitorError EventMessage :=
    event.mapError fun error => .encode error.message
  match ack.status with
  | .ok => encoded (SignalAcknowledged.type.event ⟨ack.id⟩)
  | .error record => encoded (SignalErrored.type.event ⟨ack.id, record⟩)
  | .rejection _ => .error (.invalidStatus ack.id ack.status.name)

/-- The system event that tells of an acknowledgement. It concerns the same entity as
the acknowledged signal. -/
def systemEvent (m : Monitor) (ack : Ack) : StateM Supply (Except MonitorError Signal) :=
  match m.signals.find? ack.id with
  | none => return .error (.unknownSignal ack.id)
  | some signal =>
      match message ack with
      | .error error => return .error error
      | .ok message => do return .ok (← Signal.produced message signal producer none)

/-- Hands acknowledgements on, and then posts the system event of each. -/
def observer (m : Monitor) (next : Observer ω) (post : Signal → StateM ω Unit) : Observer ω :=
  fun ack => do
    match ← next ack with
    | .error error => return .error error
    | .ok () =>
        match ← Act.drawing (m.systemEvent ack) with
        | .error error => return .error error
        | .ok event =>
            Act.outside (post event)
            return .ok ()

end Monitor

end Switchboard
