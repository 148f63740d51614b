import Switchboard.Failure
import Switchboard.Signal.Supply

namespace Switchboard

/-! How a handler refuses a command or fails at it, and what becomes of that. -/

structure Rejection where
  type : String
  data : Json
  message : String
deriving DecidableEq, Repr

namespace Rejection

/-- The rejection that a message expresses, worded by `text`. -/
def ofMessage (t : MessageType μ) (text : μ → String) (reason : μ) : Except EncodeError Rejection :=
  (t.encode reason).map fun data => ⟨t.name, data, text reason⟩

def is (r : Rejection) (t : MessageType μ) : Bool := r.type = t.name

def reason (r : Rejection) (t : MessageType μ) : Except DecodeError μ := r.data.decode t.decode

def eventMessage (r : Rejection) : EventMessage := ⟨r.type, r.data⟩

def encode (r : Rejection) : Json :=
  .object [("data", r.data), ("message", .string r.message), ("rejection_type", .string r.type)]

def decode : Decoder Rejection :=
  .record "Rejection" (mk
    <$> .required "rejection_type" .string
    <*> .required "data" .any
    <*> .required "message" .string)

def producer : String := "eventfold.rejections"

/-- The event that tells of a rejected signal. -/
def event (r : Rejection) (command : Signal) : StateM Supply Signal :=
  Signal.produced r.eventMessage command producer none

end Rejection

/-- Why a handler gives no events: it rejects the message, or something else fails. -/
inductive HandlerError where
  | rejected (rejection : Rejection)
  | failed (type message : String)
deriving DecidableEq, Repr

abbrev HandlerResult := Except HandlerError (List EventMessage)

namespace HandlerError

def message : HandlerError → String
  | .rejected rejection => "rejected: " ++ rejection.message
  | .failed _ message => message

/-- Reading and writing messages fails with this type of error. -/
def codec (message : String) : HandlerError := .failed "Error" message

/-- Rejects with a reason; one that cannot be written is a failure. -/
def reject (t : MessageType μ) (text : μ → String) (reason : μ) : HandlerError :=
  match Rejection.ofMessage t text reason with
  | .ok rejection => .rejected rejection
  | .error error => codec error.message

def record : HandlerError → ErrorRecord
  | .rejected rejection =>
      .withAttribute (.of rejection.type rejection.message) "rejection" rejection.data
  | .failed type message => .of type message

end HandlerError

def HandlerResult.ofEvents (events : Except EncodeError (List EventMessage)) : HandlerResult :=
  events.mapError fun error => .codec error.message

end Switchboard
