import Switchboard.Signal.Basic

namespace Switchboard

/-! New signals, with ids and times drawn from a supply. -/

/-- Where new ids and the current time come from: the ids and clock readings still to
come, by how many have been drawn. -/
structure Supply where
  ids : Nat → SignalId
  clock : Nat → UInt64
  idsDrawn : Nat
  readings : Nat

namespace Supply

def freshId : StateM Supply SignalId := fun s =>
  (s.ids s.idsDrawn, { s with idsDrawn := s.idsDrawn + 1 })

def now : StateM Supply UInt64 := fun s =>
  (s.clock s.readings, { s with readings := s.readings + 1 })

end Supply

namespace SignalContext

def fresh : StateM Supply SignalContext := do return .ofTime (← Supply.now)

/-- The context of what the handling of a signal produces: it keeps the actor, the
tenant, the correlation and the metadata, names the signal as its origin, and is not
delayed. -/
def derived (origin : Signal) (producer : String) (version : Option UInt64) :
    StateM Supply SignalContext := do
  return {
    actor := origin.context.actor
    tenant := origin.context.tenant
    timestamp := ← Supply.now
    delay := none
    origin := some origin.id
    correlation := origin.context.correlation
    producer := some producer
    version
    metadata := origin.context.metadata }

end SignalContext

namespace Signal

def ofEventMessage (message : EventMessage) (target : Option String) (context : SignalContext) :
    StateM Supply Signal := do
  return {
    id := ← Supply.freshId
    kind := .event
    type := message.type
    target
    payload := message.data
    context }

/-- The signal of an event that the handling of another signal produced. It concerns
the same entity. -/
def produced (message : EventMessage) (origin : Signal) (producer : String)
    (version : Option UInt64) : StateM Supply Signal := do
  ofEventMessage message origin.target (← SignalContext.derived origin producer version)

def ofEvent (t : MessageType μ) (message : μ) (context : SignalContext) :
    StateM Supply (Except EncodeError Signal) :=
  match t.event message with
  | .ok event => .ok <$> ofEventMessage event none context
  | .error error => return .error error

def ofCommand (t : MessageType μ) (target : μ → String) (message : μ) (context : SignalContext) :
    StateM Supply (Except EncodeError Signal) := do
  let id ← Supply.freshId
  return (t.encode message).map fun payload =>
    { id, kind := .command, type := t.name, target := some (target message), payload, context }

end Signal

end Switchboard
