import Switchboard.Consumer.HandlerSet
import Switchboard.Outcome
import Switchboard.World

namespace Switchboard

/-! Consumers of signals. -/

/-- Something that takes signals of certain classes and says what came of each. -/
structure Dispatcher (ω : Type) where
  id : String
  classes : List MessageClass
  dispatch : Signal → Act ω (Except DispatchError Outcome)

inductive Consumer (ω : Type) where
  | dispatcher (dispatcher : Dispatcher ω)
  | handlers (set : HandlerSet ω)

namespace Consumer

def id : Consumer ω → String
  | .dispatcher d => d.id
  | .handlers h => h.id

def category : Consumer ω → ConsumerCategory
  | .dispatcher _ => .dispatcher
  | .handlers _ => .handler

/-- The classes of signals it declares. A dispatcher may declare a class twice. -/
def classes : Consumer ω → List MessageClass
  | .dispatcher d => d.classes
  | .handlers h => h.classes

def defect : Consumer ω → Option RegistrationError
  | .dispatcher _ => none
  | .handlers h => h.defect

end Consumer

end Switchboard
