import Switchboard.Bus.Monitor

namespace Switchboard

/-! Runs of a bus, which may break off. -/

inductive Halt where
  | error (error : BusError)
  /-- An acknowledgement could not be turned into a system event. -/
  | monitor (error : MonitorError)
  /-- There was more to publish than the run may take on. -/
  | unfinished
deriving DecidableEq, Repr

/-- A run. What it did before it breaks off stays done. -/
abbrev Run (ω α : Type) := ExceptT Halt (Act ω) α

namespace Run

def acting (act : Act ω α) : Run ω α := ExceptT.lift act

/-- A call of a store, whose errors break the run off. -/
def storing (call : StateM ω (Except StorageError α)) : Run ω α := do
  match ← acting (Act.outside call) with
  | .ok value => return value
  | .error error => throw (.error (.storage error))

def notifying (observer : Observer ω) (ack : Ack) : Run ω Unit := do
  match ← acting (observer ack) with
  | .ok () => return
  | .error error => throw (.monitor error)

end Run

end Switchboard
