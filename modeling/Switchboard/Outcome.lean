import Switchboard.Rejection

namespace Switchboard

/-! Outcomes of delivering a signal. -/

inductive Outcome where
  | success (events : List Signal)
  /-- The signal was rejected, as this event tells. -/
  | rejection (event : Signal)
  | failure (error : ErrorRecord)
deriving DecidableEq, Repr

namespace Outcome

def isSuccess : Outcome → Bool
  | .success _ => true
  | _ => false

def isRejection : Outcome → Bool
  | .rejection _ => true
  | _ => false

def isFailure : Outcome → Bool
  | .failure _ => true
  | _ => false

def events : Outcome → List Signal
  | .success events => events
  | _ => []

def error : Outcome → Option ErrorRecord
  | .failure record => some record
  | _ => none

def status : Outcome → SignalStatus
  | .success _ => .ok
  | .rejection _ => .rejected
  | .failure _ => .error

def followUps : Outcome → List Signal
  | .success events => events
  | .rejection event => [event]
  | .failure _ => []

/-- One outcome for several: the first failure, else the first rejection, else the
success with the events of all. -/
def merge (outcomes : List Outcome) : Outcome :=
  match outcomes.find? isFailure with
  | some failed => failed
  | none =>
      match outcomes.find? isRejection with
      | some rejected => rejected
      | none => .success (outcomes.flatMap events)

end Outcome

inductive Caught where
  | rejected (rejection : Rejection) (command : Signal)
  /-- Any other error, and whether it has been thrown again. -/
  | runtime (error : ErrorRecord) (rethrown : Bool)
  | handled
deriving DecidableEq, Repr

namespace Caught

def classify (error : HandlerError) (command : Signal) : Caught :=
  match error with
  | .rejected rejection => .rejected rejection command
  | .failed _ _ => .runtime error.record false

/-- The error to throw, the first time this is asked. -/
def rethrowOnce : Caught → Option ErrorRecord × Caught
  | .runtime error false => (some error, .runtime error true)
  | caught => (none, caught)

def rejectionEvent : Caught → StateM Supply (Option Signal)
  | .rejected rejection command => some <$> rejection.event command
  | _ => return none

def status : Caught → Option SignalStatus
  | .rejected _ _ => some .rejected
  | .runtime _ _ => some .error
  | .handled => none

def outcome : Caught → StateM Supply (Option Outcome)
  | .rejected rejection command => (some ∘ .rejection) <$> rejection.event command
  | .runtime error _ => return some (.failure error)
  | .handled => return none

end Caught

/-- The outcome of a signal whose handler gave an error. -/
def Outcome.ofHandlerError (error : HandlerError) (command : Signal) : StateM Supply Outcome :=
  return (← (Caught.classify error command).outcome).getD (.success [])

end Switchboard
