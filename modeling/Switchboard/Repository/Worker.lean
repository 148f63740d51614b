import Switchboard.Aggregate.Root
import Switchboard.Entity.Cache
import Switchboard.Outcome
import Switchboard.World

namespace Switchboard

/-! What the actor of an entity does. -/

/-- The entities of a model behind a cache. -/
structure Worker (β σ : Type) where
  model : AggregateModel σ
  cache : EntityCache β (Root σ)

namespace Worker

/-- Has an entity handle a command and writes it if that succeeds. Where the handler ends
without a result there is none here either, and the actor is gone. -/
def dispatch (w : Worker β σ) (key : EntityKey) (command : Signal) :
    Act (Cached β (Root σ)) (Except DispatchError Outcome) := do
  match ← Act.outside (w.cache.read key) with
  | .error error => return .error (.storage error)
  | .ok root =>
      let (result, root) ← Act.drawing ((Root.dispatch w.model command).run.run root)
      match result with
      | .error (.configuration error) => return .error (.configuration error)
      | .error (.handler error) => return .ok (← Act.drawing (Outcome.ofHandlerError error command))
      | .error (.decode event error) =>
          return .ok (.failure (.of "DecodeError" (AggregateError.decode event error).message))
      | .error .crashed => return .error .actorGone
      | .ok events =>
          match ← Act.outside (w.cache.write root.commit.2) with
          | .error error => return .error (.storage error)
          | .ok () => return .ok (.success events)

def dispatchEach (w : Worker β σ) (key : EntityKey) :
    List Signal → Act (Cached β (Root σ)) (Except DispatchError (List Outcome))
  | [] => return .ok []
  | command :: rest => do
      match ← w.dispatch key command with
      | .error error => return .error error
      | .ok outcome => return (← w.dispatchEach key rest).map (outcome :: ·)

/-- Has an entity handle commands in turn while caching is on for it, so that it is read
once and written once, also if some command ends in an error. Only where the actor is
gone does caching stay on. -/
def dispatchBatch (w : Worker β σ) (key : EntityKey) (commands : List Signal) :
    Act (Cached β (Root σ)) (Except DispatchError (List Outcome)) := do
  Act.outside (w.cache.startCaching key)
  match ← w.dispatchEach key commands with
  | .error .actorGone => return .error .actorGone
  | result =>
      match ← Act.outside (w.cache.stopCaching key) with
      | .error (.storage error) => return result.bind fun _ => .error (.storage error)
      | _ => return result

def snapshot (w : Worker β σ) (key : EntityKey) :
    Act (Cached β (Root σ)) (Except DispatchError (Snapshot σ)) := do
  match ← Act.outside (w.cache.read key) with
  | .error error => return .error (.storage error)
  | .ok root => return .ok root.snapshot

end Worker

end Switchboard
