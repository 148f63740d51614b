import Switchboard.Consumer.Basic
import Switchboard.Table

namespace Switchboard

/-! Who consumes which type of signals. -/

/-- Whether a type has one consumer or any number. -/
inductive Ownership where
  | exclusive
  | shared
deriving DecidableEq, Repr

/-- The consumers of one type, in the order of their registration, and the class that
the type was first registered with. -/
structure Subscription (ω : Type) where
  message : MessageClass
  consumers : List (Consumer ω)

structure Registry (ω : Type) where
  ownership : Ownership
  /-- By the names of the types. -/
  subscriptions : Table String (Subscription ω)

namespace Registry

def empty (ownership : Ownership) : Registry ω := ⟨ownership, .empty⟩

def find? (r : Registry ω) (type : String) : Option (Subscription ω) := r.subscriptions.find? type

def supports (r : Registry ω) (type : String) : Bool := (r.find? type).isSome

def class? (r : Registry ω) (type : String) : Option MessageClass :=
  (r.find? type).map (·.message)

def consumers (r : Registry ω) (type : String) : List (Consumer ω) :=
  ((r.find? type).map (·.consumers)).getD []

def consumer? (r : Registry ω) (type : String) : Option (Consumer ω) := (r.consumers type).head?

/-- All types that have a consumer, in ascending order. -/
def types (r : Registry ω) : List String := r.subscriptions.keys.mergeSort (· ≤ ·)

/-- Whether the first consumer keeps the second from one of its types: they are of
different categories, have the same id, or the type can have only one consumer. -/
def excludes (r : Registry ω) (owner consumer : Consumer ω) : Bool :=
  owner.category ≠ consumer.category || r.ownership = .exclusive || owner.id = consumer.id

/-- Lets a consumer have a type, unless somebody keeps it from it. -/
def grant (consumer : Consumer ω) (message : MessageClass) :
    ExceptT RegistrationError (StateM (Registry ω)) Unit := do
  let r ← get
  match (r.consumers message.name).find? (r.excludes · consumer) with
  | some owner => throw (.conflict message.name owner.id owner.category consumer.id consumer.category)
  | none => return

/-- Adds a consumer of one class. A type that has consumers keeps its class. -/
def subscribe (r : Registry ω) (consumer : Consumer ω) (message : MessageClass) : Registry ω :=
  let subscription := (r.find? message.name).getD ⟨message, []⟩
  let extended := { subscription with consumers := subscription.consumers ++ [consumer] }
  { r with subscriptions := r.subscriptions.insert message.name extended }

/-- Registers a consumer for all classes it declares, or for none. -/
def register (consumer : Consumer ω) : ExceptT RegistrationError (StateM (Registry ω)) Unit := do
  match consumer.defect with
  | some error => throw error
  | none =>
      consumer.classes.forM (grant consumer)
      consumer.classes.forM fun message => modify (·.subscribe consumer message)

/-- Takes every consumer of that id from a type; a type without consumers is forgotten. -/
def release (r : Registry ω) (id type : String) : Registry ω :=
  match r.find? type with
  | none => r
  | some subscription =>
      let left := subscription.consumers.filter fun c => c.id ≠ id
      { r with subscriptions :=
          if left.isEmpty then r.subscriptions.erase type
          else r.subscriptions.insert type { subscription with consumers := left } }

/-- Takes a consumer from the types it declares, and says from which it was taken. Types
that it does not own are passed over. -/
def unregister (r : Registry ω) (consumer : Consumer ω) : List String × Registry ω :=
  consumer.classes.foldl
    (fun (released, r) message =>
      if (r.consumers message.name).any (fun c => c.id = consumer.id) then
        (released ++ [message.name], r.release consumer.id message.name)
      else (released, r))
    ([], r)

def clear (r : Registry ω) : Registry ω := { r with subscriptions := .empty }

end Registry

end Switchboard
