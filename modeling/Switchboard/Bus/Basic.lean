import Switchboard.Bus.Monitor
import Switchboard.Consumer.Registry
import Switchboard.Signal.Store
import Switchboard.Text

namespace Switchboard

/-! The bus, its consumers and how it is put together. -/

structure Bus (ω : Type) where
  /-- Who takes which command: one consumer for each type. -/
  commands : Registry ω
  /-- Who takes which event: any number of subscribers. -/
  events : Registry ω
  store : SignalStore ω
  /-- Where system events are posted, if they are wanted. -/
  system : Option (Signal → StateM ω Unit)
  /-- Whether every signal has to name a tenant. -/
  multitenant : Bool

namespace Bus

def registry (b : Bus ω) : SignalKind → Registry ω
  | .command => b.commands
  | .event => b.events

def withRegistry (b : Bus ω) (kind : SignalKind) (registry : Registry ω) : Bus ω :=
  match kind with
  | .command => { b with commands := registry }
  | .event => { b with events := registry }

def register (kind : SignalKind) (consumer : Consumer ω) :
    ExceptT RegistrationError (StateM (Bus ω)) Unit :=
  .mk fun b =>
    let (result, registry) := Registry.register consumer (b.registry kind)
    (result, b.withRegistry kind registry)

/-- Removes a consumer of commands or events, and says which types it is taken from. -/
def unregister (b : Bus ω) (kind : SignalKind) (consumer : Consumer ω) : List String × Bus ω :=
  let (released, registry) := (b.registry kind).unregister consumer
  (released, b.withRegistry kind registry)

def close (b : Bus ω) : Bus ω :=
  { b with commands := b.commands.clear, events := b.events.clear }

def supports (b : Bus ω) (type : String) : Bool :=
  b.commands.supports type || b.events.supports type

/-- All types that have a consumer, in ascending order. -/
def supportedTypes (b : Bus ω) : List String := sortedNames (b.commands.types ++ b.events.types)

end Bus

structure BusPlan (ω : Type) where
  store : SignalStore ω
  system : Option (Signal → StateM ω Unit)
  multitenant : Bool
  consumers : List (SignalKind × Consumer ω)

namespace BusPlan

/-- The bus without its consumers. -/
def vacant (p : BusPlan ω) : Bus ω where
  commands := .empty .exclusive
  events := .empty .shared
  store := p.store
  system := p.system
  multitenant := p.multitenant

/-- The bus with all its consumers, unless two of them are in conflict. -/
def build (p : BusPlan ω) : Except RegistrationError (Bus ω) :=
  let (result, bus) := (p.consumers.forM fun entry => Bus.register entry.1 entry.2).run.run p.vacant
  result.map fun () => bus

end BusPlan

end Switchboard
