import Switchboard.Bus.Basic
import Switchboard.Bus.Run
import Switchboard.Consumer.Delivery

namespace Switchboard

/-! Handling a stored signal: delivery to its consumers, settlement of its record, and
publishing of what came of it. -/

namespace Bus

def save (b : Bus ω) (signal : Signal) (status : SignalStatus) (error : Option ErrorRecord) :
    Run ω Unit :=
  Run.storing (b.store.save signal status error)

/-- The outcomes with all consumers of a signal, in the order of their registration. -/
def deliver (b : Bus ω) (signal : Signal) : Run ω (List Outcome) :=
  ((b.registry signal.kind).consumers signal.type).mapM fun consumer => do
    match ← Run.acting (consumer.deliver signal) with
    | .ok outcome => return outcome
    | .error error => throw (.error (.configuration error))

def settledError : Outcome → Option ErrorRecord
  | .success _ => none
  | .rejection event =>
      some ((ErrorRecord.of event.type "command rejected").withAttribute "rejection" event.payload)
  | .failure error => some error

/-- The one outcome of a signal with these outcomes. A command needs a consumer. -/
def settledOutcome (signal : Signal) (outcomes : List Outcome) : Outcome :=
  if outcomes.isEmpty ∧ signal.kind = .command then .failure (unsupportedRecord signal)
  else .merge outcomes

/-- Delivers a stored signal and settles its record. Gives its outcome and the events to
publish next. -/
def process (b : Bus ω) (signal : Signal) : Run ω (Outcome × List Signal) := do
  let outcomes ← b.deliver signal
  let outcome := settledOutcome signal outcomes
  b.save signal outcome.status (settledError outcome)
  return (outcome, outcomes.flatMap Outcome.followUps)

/-- Publishes events: each is stored and processed, and what comes of it waits behind
those that are waiting already. At most `fuel` events are published. -/
def publish (b : Bus ω) : (fuel : Nat) → List Signal → Run ω Unit
  | _, [] => return
  | 0, _ :: _ => throw .unfinished
  | fuel + 1, event :: waiting => do
      b.save event .received none
      let (_, followUps) ← b.process event
      b.publish fuel (waiting ++ followUps)

/-- Processes a stored signal and publishes all that comes of it. -/
def carryOut (b : Bus ω) (fuel : Nat) (signal : Signal) : Run ω Outcome := do
  let (outcome, followUps) ← b.process signal
  b.publish fuel followUps
  return outcome

end Bus

end Switchboard
