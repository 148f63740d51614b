import Switchboard.Rejection

namespace Switchboard

/-! Acknowledgements of posted signals. -/

inductive AckStatus where
  /-- The signal was accepted. -/
  | ok
  /-- The signal was refused before anybody got it. -/
  | error (record : ErrorRecord)
  /-- The signal was rejected. The bus never says so in an acknowledgement. -/
  | rejection (rejection : Rejection)
deriving DecidableEq, Repr

namespace AckStatus

def name : AckStatus → String
  | .ok => "OK"
  | .error _ => "ERROR"
  | .rejection _ => "REJECTION"

def encode (s : AckStatus) : Json :=
  match s with
  | .ok => .object [("status", .string s.name)]
  | .error record => .object [("detail", record.encode), ("status", .string s.name)]
  | .rejection reason => .object [("detail", reason.encode), ("status", .string s.name)]

/-- What the detail beside each status is. There need not be one beside `OK`. -/
def details : List (String × (Option Source → Except DecodeError AckStatus)) :=
  let needed (decoder : Decoder AckStatus) : Option Source → Except DecodeError AckStatus
    | none => .error (.missing "detail")
    | some source => decoder source
  let free : Option Source → Except DecodeError AckStatus
    | none => .ok .ok
    | some source => (Decoder.nothing "no detail" source).map fun _ => .ok
  [ ("OK", free),
    ("ERROR", needed fun source => (ErrorRecord.decode source).map .error),
    ("REJECTION", needed fun source => (Rejection.decode source).map .rejection) ]

/-- Reads status and detail out of an object, in which other members are passed over, or
an array of both. A detail before the status has to be readable to the end. In an array
the status is its name and nothing else. -/
def decode : Decoder AckStatus := fun source =>
  match source.view with
  | .object members =>
      match repeatedName ["status", "detail"] (members.map Prod.fst) with
      | some key => .error (.repeated key)
      | none =>
          match members.filter fun (key, _) => key = "status" ∨ key = "detail" with
          | [("status", status)] => do (← Decoder.choice details status) none
          | [("status", status), (_, detail)] => do (← Decoder.choice details status) (some detail)
          | [(_, detail), (_, status)] => do
              discard (Decoder.any detail)
              (← Decoder.choice details status) (some detail)
          | _ => .error (.missing "status")
  | .array [status, detail] => do (← Decoder.name details status) (some detail)
  | .array items => .error (.length items.length "status and detail")
  | other => .error (.kind other.describe "status and detail")

end AckStatus

structure Ack where
  id : SignalId
  status : AckStatus
deriving DecidableEq, Repr

namespace Ack

def ok (id : SignalId) : Ack := ⟨id, .ok⟩

def error (id : SignalId) (record : ErrorRecord) : Ack := ⟨id, .error record⟩

def isOk (a : Ack) : Bool := a.status = .ok

def encode (a : Ack) : Json :=
  .object [("signal_id", a.id.encode), ("status", a.status.encode)]

def decode : Decoder Ack :=
  .record "Ack"
    (mk <$> .required "signal_id" SignalId.decode <*> .required "status" AckStatus.decode)

end Ack

end Switchboard
