import Switchboard.Consumer.Basic
import Switchboard.Entity.Storage
import Switchboard.Repository.Actors
import Switchboard.Repository.Worker

namespace Switchboard

/-! Repositories: dispatchers that own the entities of one model. -/

structure Repository (β σ : Type) where
  consumerId : String
  model : AggregateModel σ
  multitenant : Bool
  storage : EntityStorage β (Snapshot σ)
  /-- Which messages, by how many were sent before, find that an idle actor ended after
  it was looked up. -/
  late : Nat → Bool

/-- What a repository holds, and the backing of its storage. -/
structure RepositoryState (β σ : Type) where
  cached : Cached β (Root σ)
  actors : Actors
  /-- How many messages have been sent to actors. -/
  sent : Nat

namespace RepositoryState

def cold (backing : β) : RepositoryState β σ := ⟨.cold backing, .empty, 0⟩

end RepositoryState

namespace Repository

/-- The id of a repository that has not been given one. -/
def defaultId (type : String) : String := "aggregate:" ++ type

def of (model : AggregateModel σ) (storage : EntityStorage β (Snapshot σ)) : Repository β σ where
  consumerId := defaultId model.type
  model
  multitenant := false
  storage
  late _ := false

/-- The entities, each at its latest snapshot. One that has no record is new. -/
def cache (r : Repository β σ) : EntityCache β (Root σ) where
  multitenant := r.multitenant
  keyOf := Root.key
  load key := do
    match ← r.storage.load key with
    | .error error => return .error error
    | .ok none => return .ok (.fresh r.model key)
    | .ok (some snapshot) => return .ok (.ofSnapshot r.model key snapshot)
  store root := r.storage.store root.key root.snapshot

def worker (r : Repository β σ) : Worker β σ := ⟨r.model, r.cache⟩

/-- The key of an entity. Without tenants to tell apart the tenant is no part of it. -/
def keyFor (r : Repository β σ) (tenant : Option TenantId) (id : String) : EntityKey :=
  ⟨if r.multitenant then tenant else none, r.model.type, id⟩

def keyOf? (r : Repository β σ) (signal : Signal) : Option EntityKey :=
  signal.target.map (r.keyFor signal.tenant)

def actor (key : EntityKey) : StateM (RepositoryState β σ) ActorRef := fun s =>
  let (actor, actors) := s.actors.obtain key
  (actor, { s with actors })

/-- Counts a message, and says whether it comes too late. -/
def sending (r : Repository β σ) : StateM (RepositoryState β σ) Bool := fun s =>
  (r.late s.sent, { s with sent := s.sent + 1 })

def working (act : Act (Cached β (Root σ)) α) : Act (RepositoryState β σ) α := fun w =>
  let (value, after) := act ⟨w.supply, w.outside.cached⟩
  (value, ⟨after.supply, { w.outside with cached := after.outside }⟩)

def stopping (actor : ActorRef) : StateM (RepositoryState β σ) Unit :=
  modify fun s => { s with actors := s.actors.stop actor }

/-- Sends an actor some work and waits for the answer. There is none from an actor that
has ended, or ends over the work. -/
def send (r : Repository β σ) (actor : ActorRef)
    (work : Act (Cached β (Root σ)) (Except DispatchError α)) :
    Act (RepositoryState β σ) (Except DispatchError α) := do
  if ← Act.outside r.sending then Act.outside (stopping actor)
  if (← get).outside.actors.isAlive actor then
    match ← working work with
    | .error .actorGone =>
        Act.outside (stopping actor)
        return .error .actorGone
    | result => return result
  else return .error .actorGone

/-- Has one actor dispatch a command, whichever entity the command is for. -/
def dispatchTo (r : Repository β σ) (actor : ActorRef) (command : Signal) :
    Act (RepositoryState β σ) (Except DispatchError Outcome) :=
  r.send actor (r.worker.dispatch actor.key command)

def dispatchBatchTo (r : Repository β σ) (actor : ActorRef) (commands : List Signal) :
    Act (RepositoryState β σ) (Except DispatchError (List Outcome)) :=
  r.send actor (r.worker.dispatchBatch actor.key commands)

def missingTarget (signal : Signal) : Outcome :=
  .failure (.of "MissingTarget"
    ("signal `" ++ signal.id.text ++ "` of type `" ++ signal.type ++ "` has no target entity"))

/-- Has the entity that a command is for handle it. If its actor is gone another one
gets the command, once. -/
def dispatch (r : Repository β σ) (command : Signal) :
    Act (RepositoryState β σ) (Except DispatchError Outcome) := do
  match r.keyOf? command with
  | none => return .ok (missingTarget command)
  | some key =>
      match ← r.dispatchTo (← Act.outside (actor key)) command with
      | .error .actorGone => r.dispatchTo (← Act.outside (actor key)) command
      | result => return result

/-- Commands by the entities they are for, the entities in the order of their first
command. Each command goes with its place. -/
def grouped (r : Repository β σ) (commands : List (Nat × Signal)) :
    Table EntityKey (List (Nat × Signal)) :=
  commands.foldl
    (fun groups command =>
      match r.keyOf? command.2 with
      | none => groups
      | some key => groups.insert key ((groups.find? key).getD [] ++ [command]))
    .empty

/-- Dispatches one batch for each entity, up to the first error. The outcomes go with
the places of their commands. -/
def dispatchGroups (r : Repository β σ) : List (EntityKey × List (Nat × Signal)) →
    Act (RepositoryState β σ) (Except DispatchError (List (Nat × Outcome)))
  | [] => return .ok []
  | (key, commands) :: rest => do
      match ← r.dispatchBatchTo (← Act.outside (actor key)) (commands.map Prod.snd) with
      | .error error => return .error error
      | .ok outcomes =>
          return (← r.dispatchGroups rest).map ((commands.map Prod.fst).zip outcomes ++ ·)

/-- Dispatches several commands, in one batch for each entity. There is one outcome for
each command, in their order. -/
def dispatchBatch (r : Repository β σ) (commands : List Signal) :
    Act (RepositoryState β σ) (Except DispatchError (List Outcome)) := do
  let placed := commands.zipIdx.map Prod.swap
  let homeless := placed.filterMap fun (place, command) =>
    match r.keyOf? command with
    | none => some (place, missingTarget command)
    | some _ => none
  return (← r.dispatchGroups (r.grouped placed).entries).map fun outcomes =>
    (List.range commands.length).filterMap fun place => (homeless ++ outcomes).lookup place

def snapshot (r : Repository β σ) (tenant : Option TenantId) (id : String) :
    Act (RepositoryState β σ) (Except DispatchError (Snapshot σ)) := do
  let actor ← Act.outside (actor (r.keyFor tenant id))
  r.send actor (r.worker.snapshot actor.key)

/-- The repository as a consumer of the commands that its model handles. -/
def dispatcher (r : Repository β σ) (place : Place ω (RepositoryState β σ)) : Dispatcher ω where
  id := r.consumerId
  classes := r.model.commandClasses
  dispatch signal := Act.within place (r.dispatch signal)

end Repository

end Switchboard
