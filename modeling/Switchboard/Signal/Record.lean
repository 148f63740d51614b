import Switchboard.Failure

namespace Switchboard

/-- A stored signal: how far its handling has come, and the error it ended in. -/
structure SignalRecord where
  signal : Signal
  status : SignalStatus
  error : Option ErrorRecord
deriving DecidableEq, Repr

namespace SignalRecord

/-- An error is written only if there is one. -/
def encode (r : SignalRecord) : Json :=
  let always := [("signal", r.signal.encode), ("status", r.status.encode)]
  match r.error with
  | none => .object always
  | some error => .object (("error", error.encode) :: always)

def decode : Decoder SignalRecord :=
  .record "SignalRecord" (mk
    <$> .required "signal" Signal.decode
    <*> .required "status" SignalStatus.decode
    <*> .withDefault "error" none (.option ErrorRecord.decode))

end SignalRecord

end Switchboard
