import Switchboard.Aggregate.Model

namespace Switchboard

/-! Live entities. -/

/-- Why a command or an event cannot be taken by an entity. -/
inductive AggregateError where
  | configuration (error : ConfigurationError)
  | handler (error : HandlerError)
  | decode (event : String) (error : DecodeError)
  /-- The handler ended without a result. -/
  | crashed
deriving DecidableEq, Repr

def AggregateError.message : AggregateError → String
  | .configuration error => error.message
  | .handler error => error.message
  | .decode event error => "failed to decode event `" ++ event ++ "`: " ++ error.message
  | .crashed => "the handler ended without a result"

/-- An entity and the events it produced since they were last taken. -/
structure Root (σ : Type) where
  key : EntityKey
  state : σ
  version : UInt64
  /-- The time of the last event that changed the state, or zero. -/
  modifiedAt : UInt64
  lifecycle : Lifecycle
  uncommitted : List Signal

namespace Snapshot

/-! Events change a snapshot, which takes the place of the entity's own only when all
of them have been applied. -/

/-- Sets the marks that an event of that type sets. -/
def mark (model : AggregateModel σ) (s : Snapshot σ) (event : String) : Snapshot σ :=
  { s with lifecycle := {
      archived := s.lifecycle.archived || event ∈ model.archiving
      deleted := s.lifecycle.deleted || event ∈ model.deleting } }

def apply (model : AggregateModel σ) (s : Snapshot σ) (event : Signal) :
    Except AggregateError (Snapshot σ) :=
  if model.isNeutral event.type then .ok (s.mark model event.type)
  else
    match model.applier? event.type with
    | none => .error (.configuration (.missingApplier model.type event.type))
    | some applier =>
        match applier.apply s.state event.payload with
        | .error error => .error (.decode event.type error)
        | .ok state =>
            let changed := { s with
              state, version := s.version + 1, timestamp := event.context.timestamp }
            .ok (changed.mark model event.type)

/-- Events in order, all or none. -/
def applyAll (model : AggregateModel σ) (s : Snapshot σ) (events : List Signal) :
    Except AggregateError (Snapshot σ) :=
  events.foldlM (apply model) s

end Snapshot

namespace Root

/-- A new entity in its initial state. -/
def fresh (model : AggregateModel σ) (key : EntityKey) : Root σ :=
  ⟨key, model.initial, 0, 0, .initial, []⟩

def snapshot (r : Root σ) : Snapshot σ := ⟨r.state, r.version, r.modifiedAt, r.lifecycle⟩

/-- Puts the entity where a snapshot says. Events not taken yet are kept. -/
def restore (r : Root σ) (s : Snapshot σ) : Root σ :=
  { r with
    state := s.state, version := s.version, modifiedAt := s.timestamp, lifecycle := s.lifecycle }

def ofSnapshot (model : AggregateModel σ) (key : EntityKey) (s : Snapshot σ) : Root σ :=
  (fresh model key).restore s

/-- The time of the last event that changed the state, if there was any. -/
def whenModified (r : Root σ) : Option UInt64 := if 0 < r.version then some r.modifiedAt else none

/-- Takes past events, all or none. -/
def play (model : AggregateModel σ) (events : List Signal) :
    ExceptT AggregateError (StateM (Root σ)) Unit := do
  let draft ← Snapshot.applyAll model (← get).snapshot events
  modify (·.restore draft)

/-- Turns a handler's events into signals, applying each. Every signal carries the
version reached with it. -/
def produce (model : AggregateModel σ) (producer : String) (command : Signal) :
    Snapshot σ → List EventMessage →
      StateM Supply (Except AggregateError (List Signal × Snapshot σ))
  | s, [] => return .ok ([], s)
  | s, message :: rest => do
      let event ← Signal.produced message command producer none
      match s.apply model event with
      | .error error => return .error error
      | .ok s =>
          let stamped := { event with context.version := some s.version }
          return (← produce model producer command s rest).map
            fun (events, s) => (stamped :: events, s)

def decide (model : AggregateModel σ) (r : Root σ) (command : Signal) :
    Except AggregateError (List EventMessage) :=
  match model.handler? command.type with
  | none => .error (.configuration (.missingHandler model.type command.type))
  | some handler =>
      match handler.handle r.state command.payload ⟨r.key.id, r.version, command⟩ with
      | .crashed => .error .crashed
      | .given (.error error) => .error (.handler error)
      | .given (.ok messages) => .ok messages

/-- Handles a command and applies the events that come of it: either all of this
happens, or the entity stays as it is. The events are also kept until they are taken. -/
def dispatch (model : AggregateModel σ) (command : Signal) :
    ExceptT AggregateError (StateT (Root σ) (StateM Supply)) (List Signal) := do
  let r ← get
  let messages ← r.decide model command
  let produced ← (produce model r.key.id command r.snapshot messages : StateM Supply _)
  let (events, draft) ← produced
  modify (·.restore draft)
  modify fun r => { r with uncommitted := r.uncommitted ++ events }
  return events

/-- Takes the events kept. -/
def commit (r : Root σ) : List Signal × Root σ := (r.uncommitted, { r with uncommitted := [] })

/-- The events kept that changed the state. -/
def stateChanging (model : AggregateModel σ) (r : Root σ) : List Signal :=
  r.uncommitted.filter fun event => model.isStateChanging event.type

end Root

end Switchboard
