import Switchboard.Signal.Record
import Switchboard.Table
import Switchboard.World

namespace Switchboard

/-! Where signals are stored while they are handled. -/

/-- The calls that a bus makes of its signal store. -/
structure SignalStore (ω : Type) where
  save : Signal → SignalStatus → Option ErrorRecord → StateM ω (Except StorageError Unit)
  record : SignalId → StateM ω (Except StorageError (Option SignalRecord))
  /-- The signals that are scheduled, those due first in front. -/
  scheduled : StateM ω (Except StorageError (List Signal))
  /-- Takes a signal that is scheduled for delivery; false if it is not scheduled. -/
  claim : SignalId → StateM ω (Except StorageError Bool)

/-- Signals kept in memory, in the order in which they were first saved. -/
structure SignalLedger where
  records : Table SignalId SignalRecord

namespace SignalLedger

def empty : SignalLedger := ⟨.empty⟩

def record? (l : SignalLedger) (id : SignalId) : Option SignalRecord := l.records.find? id

/-- Saves a signal, in place of what there was under its id. -/
def save (l : SignalLedger) (signal : Signal) (status : SignalStatus)
    (error : Option ErrorRecord) : SignalLedger :=
  ⟨l.records.insert signal.id ⟨signal, status, error⟩⟩

def withStatus (l : SignalLedger) (status : SignalStatus) : List SignalRecord :=
  l.records.values.filter fun r => r.status = status

/-- Whether the first signal is due before the second, or at the same time but was
made no later. -/
def isEarlier (first second : Signal) : Bool :=
  let a := first.context
  let b := second.context
  a.deliverAt < b.deliverAt || (a.deliverAt = b.deliverAt && a.timestamp ≤ b.timestamp)

def scheduled (l : SignalLedger) : List Signal :=
  ((l.withStatus .scheduled).map (·.signal)).mergeSort isEarlier

/-- Moves a signal from scheduled to received, if it is scheduled. -/
def claim (l : SignalLedger) (id : SignalId) : Bool × SignalLedger :=
  match l.record? id with
  | some r =>
      if r.status = .scheduled then (true, ⟨l.records.insert id { r with status := .received }⟩)
      else (false, l)
  | none => (false, l)

/-- The ledger as the store of a bus. None of its calls fails. -/
def store (place : Place ω SignalLedger) : SignalStore ω where
  save signal status error := place.within fun l => (.ok (), l.save signal status error)
  record id := place.within fun l => (.ok (l.record? id), l)
  scheduled := place.within fun l => (.ok l.scheduled, l)
  claim id := place.within fun l => let (claimed, l) := l.claim id; (.ok claimed, l)

end SignalLedger

end Switchboard
