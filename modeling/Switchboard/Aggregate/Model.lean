import Switchboard.Rejection
import Switchboard.Entity.Snapshot
import Switchboard.Text

namespace Switchboard

/-! Aggregate models: how the entities of one type decide on commands and how events
change their state. -/

/-- What a command handler sees besides the command itself. -/
structure HandlerContext where
  aggregateId : String
  /-- The version before the command. -/
  version : UInt64
  signal : Signal

inductive Verdict where
  | given (result : HandlerResult)
  /-- It ends without a result, and with it the actor it runs in. -/
  | crashed

structure CommandHandler (σ : Type) where
  command : MessageClass
  handle : σ → Json → HandlerContext → Verdict

/-- Applies events of one type to a state, if their payload can be read. -/
structure Applier (σ : Type) where
  event : String
  apply : σ → Json → Except DecodeError σ

/-- A type of entities.

An event of a neutral type leaves state and version alone, whether there is an applier
for it or not. Any other event needs an applier. The marks that archiving and deleting
events set are no part of the state. -/
structure AggregateModel (σ : Type) where
  type : String
  initial : σ
  handlers : List (CommandHandler σ)
  appliers : List (Applier σ)
  neutral : List String
  archiving : List String
  deleting : List String

/-- The list with an item in front of all others, without those of the same key. -/
def replacing (key : α → String) (item : α) (items : List α) : List α :=
  item :: items.filter fun other => key other ≠ key item

namespace AggregateModel

def empty (type : String) (initial : σ) : AggregateModel σ :=
  ⟨type, initial, [], [], [], [], []⟩

/-- Adds the handler of a command type; a later one takes the place of an earlier. -/
def handles (m : AggregateModel σ) (t : MessageType μ) (handle : σ → μ → HandlerContext → Verdict) :
    AggregateModel σ :=
  let handler : CommandHandler σ := {
    command := t.toClass
    handle := fun state payload context =>
      match payload.decode t.decode with
      | .ok command => handle state command context
      | .error error => .given (.error (.codec error.message)) }
  { m with handlers := replacing (·.command.name) handler m.handlers }

/-- Adds the applier of an event type; a later one takes the place of an earlier. -/
def applies (m : AggregateModel σ) (t : MessageType μ) (apply : σ → μ → σ) : AggregateModel σ :=
  let applier : Applier σ := {
    event := t.name
    apply := fun state payload => (payload.decode t.decode).map (apply state) }
  { m with appliers := replacing (·.event) applier m.appliers }

def withNeutral (m : AggregateModel σ) (event : String) : AggregateModel σ :=
  { m with neutral := event :: m.neutral }

def archivedBy (m : AggregateModel σ) (event : String) : AggregateModel σ :=
  { m with archiving := event :: m.archiving }

def deletedBy (m : AggregateModel σ) (event : String) : AggregateModel σ :=
  { m with deleting := event :: m.deleting }

def handler? (m : AggregateModel σ) (command : String) : Option (CommandHandler σ) :=
  m.handlers.find? fun h => h.command.name = command

def applier? (m : AggregateModel σ) (event : String) : Option (Applier σ) :=
  m.appliers.find? fun a => a.event = event

def isNeutral (m : AggregateModel σ) (event : String) : Bool := event ∈ m.neutral

def commandTypes (m : AggregateModel σ) : List String :=
  sortedNames (m.handlers.map (·.command.name))

def eventTypes (m : AggregateModel σ) : List String :=
  sortedNames (m.appliers.map (·.event) ++ m.neutral)

/-- The classes of all commands, by ascending name. -/
def commandClasses (m : AggregateModel σ) : List MessageClass :=
  (m.handlers.map (·.command)).mergeSort fun a b => a.name ≤ b.name

/-- Whether an event of that type advances the version. -/
def isStateChanging (m : AggregateModel σ) (event : String) : Bool :=
  !m.isNeutral event && (m.applier? event).isSome

end AggregateModel

end Switchboard
