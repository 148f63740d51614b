import Switchboard.Bus.Basic
import Switchboard.Sample.Catalog
import Switchboard.Sample.Scene
import Switchboard.Sample.Script

namespace Switchboard.Sample

/-! The consumers that appear in a scene. -/

structure ScriptedMethod where
  topic : Topic
  takesContext : Bool
  script : Script Turn
  /-- The number under which the calls of the script are counted. -/
  number : Nat

def ScriptedMethod.method (m : ScriptedMethod) (set : String) : HandlerMethod Scene :=
  .reading m.topic.type m.takesContext fun message context => do
    let shown := match m.topic.type.encode message with
      | .ok json => json
      | .error _ => .null
    Scene.note (.invoked set m.topic.key shown (if m.takesContext then some context else none))
    return (m.script.item (← Scene.calling m.number)).result

structure ScriptedDispatcher where
  id : String
  classes : List MessageClass
  script : Script Answer
  number : Nat

def Answer.result (signal : Signal) : Answer → StateM Supply (Except DispatchError Outcome)
  | .actorGone => return .error .actorGone
  | .brokenStorage => return .error (.storage (.io "injected"))
  | .misconfigured => return .error (.configuration (.missingHandler "stub" signal.type))
  | .failure record => return .ok (.failure record)
  | .rejection reason => return .ok (.rejection (← reason.event signal))
  | .success events => return .ok (.success events)

def ScriptedDispatcher.dispatcher (d : ScriptedDispatcher) : Dispatcher Scene where
  id := d.id
  classes := d.classes
  dispatch signal := do
    Act.outside (Scene.note (.dispatched d.id signal.id))
    let call ← Act.outside (Scene.calling d.number)
    Act.drawing ((d.script.item call).result signal)

/-- A repository of a scene, whatever the states of its entities are. -/
structure Company where
  dispatcher : Dispatcher Scene
  multitenant : Bool
  commandTypes : List String
  keyFor : Option TenantId → String → EntityKey
  dispatchBatch : List Signal → Act Scene (Except DispatchError (List Outcome))
  snapshot : Option TenantId → String → Act Scene (Except DispatchError Json)
  actor : EntityKey → Act Scene ActorRef
  isAlive : ActorRef → Act Scene Bool
  stop : ActorRef → Act Scene Unit
  dispatchTo : ActorRef → Signal → Act Scene (Except DispatchError Outcome)
  /-- Sets which calls of that name the storage fails. -/
  replaceFaults : (call : String) → Faults → Act Scene Unit

namespace Company

structure Setting where
  name : String
  consumerId : Option String
  multitenant : Bool
  directory : Option (List String)

def of (model : AggregateModel σ) (encode : σ → Json) (decode : Decoder σ)
    (shelf : Place Scene (Shelf σ)) (s : Setting) : Company :=
  let r : Repository (Backing σ) σ := { Repository.of model (storage encode decode s.directory) with
    consumerId := s.consumerId.getD (Repository.defaultId model.type)
    multitenant := s.multitenant }
  let place := shelf.inner (Shelf.repository s.name)
  { dispatcher := r.dispatcher place
    multitenant := r.multitenant
    commandTypes := model.commandTypes
    keyFor := r.keyFor
    dispatchBatch := fun commands => Act.within place (r.dispatchBatch commands)
    snapshot := fun tenant id => Act.within place do
      return (← r.snapshot tenant id).map (Snapshot.encode encode)
    actor := fun key => Act.within place (Act.outside (Repository.actor key))
    isAlive := fun actor => Act.within place do return (← get).outside.actors.isAlive actor
    stop := fun actor => Act.within place (Act.outside (Repository.stopping actor))
    dispatchTo := fun actor command => Act.within place (r.dispatchTo actor command)
    replaceFaults := fun call faults => Act.within place (Act.outside (modify fun s => { s with
      cached.backing.backing := s.cached.backing.backing.replace call faults })) }

def ofType? (aggregate : String) (s : Setting) : Option Company :=
  match aggregate with
  | "account" => some (of Account.model Account.encode Account.decode Scene.accountShelf s)
  | "lab" => some (of Lab.model Lab.encode Lab.decode Scene.labShelf s)
  | "unwired" => some (of Unwired.model Unwired.encode Unwired.decode Scene.unwiredShelf s)
  | _ => none

end Company

end Switchboard.Sample
