import Switchboard.Rejection

namespace Switchboard

/-! Sets of handlers, one method for each message type. -/

structure HandlerMethod (ω : Type) where
  message : MessageClass
  /-- Whether the method sees the context of the signal too. -/
  takesContext : Bool
  invoke : Json → SignalContext → StateM ω HandlerResult

namespace HandlerMethod

/-- The method that reads the payload and calls a handler. A payload that does not
decode never reaches the handler. -/
def reading (t : MessageType μ) (takesContext : Bool)
    (handle : μ → SignalContext → StateM ω HandlerResult) : HandlerMethod ω where
  message := t.toClass
  takesContext
  invoke payload context :=
    match payload.decode t.decode with
    | .ok message => handle message context
    | .error error => return .error (.codec error.message)

def on (t : MessageType μ) (handle : μ → StateM ω HandlerResult) : HandlerMethod ω :=
  reading t false fun message _ => handle message

def onWithContext (t : MessageType μ) (handle : μ → SignalContext → StateM ω HandlerResult) :
    HandlerMethod ω :=
  reading t true handle

end HandlerMethod

structure HandlerSet (ω : Type) where
  id : String
  /-- The methods, latest first. -/
  methods : List (HandlerMethod ω)
  unique : (methods.map fun m => m.message.name).Nodup
  /-- The type names declared again, in the order of that. -/
  repeated : List String

namespace HandlerSet

def empty (id : String) : HandlerSet ω := ⟨id, [], by simp, []⟩

def method? (h : HandlerSet ω) (type : String) : Option (HandlerMethod ω) :=
  h.methods.find? fun m => m.message.name = type

/-- Adds a method. It takes the place of an earlier one for the same type name, and the
set remembers that the name was declared again. -/
def declare (h : HandlerSet ω) (m : HandlerMethod ω) : HandlerSet ω :=
  { h with
    methods := m :: h.methods.filter fun other => other.message.name ≠ m.message.name
    unique := List.nodup_cons.mpr
      ⟨by simp, h.unique.sublist (List.Sublist.map _ List.filter_sublist)⟩
    repeated := if (h.method? m.message.name).isSome then h.repeated ++ [m.message.name]
      else h.repeated }

def ofMethods (id : String) (methods : List (HandlerMethod ω)) : HandlerSet ω :=
  methods.foldl declare (empty id)

/-- The classes of all methods, by ascending name. -/
def classes (h : HandlerSet ω) : List MessageClass :=
  (h.methods.map (·.message)).mergeSort fun a b => a.name ≤ b.name

/-- The error of a set that declares some type twice. -/
def defect (h : HandlerSet ω) : Option RegistrationError :=
  h.repeated.head?.map fun type => .duplicateMethod h.id type

end HandlerSet

end Switchboard
