import Switchboard.Proofs.Repository.Sending

namespace Switchboard

/-! Runs. A repository serves requests one after another, while its actors may end and are
started again. -/

/-- What a repository is asked to do, or what happens to its actors meanwhile. -/
inductive Request where
  | dispatch (command : Signal)
  | dispatchBatch (commands : List Signal)
  | dispatchTo (actor : ActorRef) (command : Signal)
  | dispatchBatchTo (actor : ActorRef) (commands : List Signal)
  | snapshot (tenant : Option TenantId) (id : String)
  /-- The actor of an entity is looked up, and started if need be. -/
  | obtain (key : EntityKey)
  /-- The actor of an entity ends. -/
  | retire (key : EntityKey)

inductive Reply (σ : Type) where
  | dispatched (reply : Except DispatchError Outcome)
  | batched (reply : Except DispatchError (List Outcome))
  | captured (reply : Except DispatchError (Snapshot σ))
  | none

variable {β σ : Type}

def Request.isBatch : Request → Bool
  | .dispatchBatch _ | .dispatchBatchTo _ _ => true
  | _ => false

/-- The events that a reply to a single command reports. -/
def Reply.events : Reply σ → Option (List Signal)
  | .dispatched reply => reported reply
  | _ => .none

namespace RepositoryState

def Uncached (s : RepositoryState β σ) : Prop := ∀ key, s.cached.slots.find? key = none

theorem cold_uncached (backing : β) : (cold backing : RepositoryState β σ).Uncached := fun _ => rfl

end RepositoryState

namespace Repository

def serve (r : Repository β σ) : Request → Act (RepositoryState β σ) (Reply σ)
  | .dispatch command => return .dispatched (← r.dispatch command)
  | .dispatchBatch commands => return .batched (← r.dispatchBatch commands)
  | .dispatchTo actor command => return .dispatched (← r.dispatchTo actor command)
  | .dispatchBatchTo actor commands => return .batched (← r.dispatchBatchTo actor commands)
  | .snapshot tenant id => return .captured (← r.snapshot tenant id)
  | .obtain key => do
      let _ ← Act.outside (actor key)
      return .none
  | .retire key => do
      Act.outside (modify fun s => { s with actors := s.actors.retire key })
      return .none

def serveAll (r : Repository β σ) :
    List Request → Act (RepositoryState β σ) (List (Request × Reply σ))
  | [] => return []
  | request :: rest => do
      let reply ← r.serve request
      return (request, reply) :: (← r.serveAll rest)

def entity? (r : Repository β σ) : Request → Option EntityKey
  | .dispatch command => r.keyOf? command
  | .dispatchTo actor _ => some (r.cache.normalize actor.key)
  | _ => none

variable {r : Repository β σ} (view : r.storage.View) {w : World (RepositoryState β σ)}

/-- What each step keeps true of the replies so far and the world, a run keeps true. -/
theorem serveAll_induction {P : List (Request × Reply σ) → World (RepositoryState β σ) → Prop}
    {requests : List Request} (log : List (Request × Reply σ))
    (step : ∀ log w, ∀ request ∈ requests, P log w →
      P (log ++ [(request, (r.serve request w).1)]) (r.serve request w).2)
    (start : P log w) : P (log ++ (r.serveAll requests w).1) (r.serveAll requests w).2 := by
  induction requests generalizing log w with
  | nil => simpa [serveAll] using start
  | cons request rest ih =>
      have next := ih _ (fun log w other member => step log w other (List.mem_cons_of_mem _ member))
        (step log w request List.mem_cons_self start)
      simpa [serveAll, List.append_assoc] using next

theorem proper_of_uncached (uncached : w.outside.Uncached) : r.Proper w.outside.cached := by
  intro key root found
  simp [uncached key] at found

theorem isCaching_of_uncached (uncached : w.outside.Uncached) (key : EntityKey) :
    (r.inventory view w.outside.cached).isCaching key = false := by
  simp [Inventory.isCaching, inventory, uncached key]

theorem uncached_of_isCaching
    (off : ∀ key, (r.inventory view w.outside.cached).isCaching key = false) : w.outside.Uncached := by
  intro key
  simpa [Inventory.isCaching, inventory] using off key

/-- A single command changes the entity that it is for by the events that are reported, and
a request that reports none changes no entity. -/
theorem serve_cases (proper : r.Proper w.outside.cached) {request : Request}
    (single : request.isBatch = false) :
    let before := r.inventory view w.outside.cached
    let (reply, ended) := r.serve request w
    let after := r.inventory view ended.outside.cached
    r.Proper ended.outside.cached ∧ (∀ key, after.isCaching key = before.isCaching key) ∧
      ((reply.events = none ∧ after.latest r.model = before.latest r.model ∧
          after.records = before.records) ∨
        ∃ key events next, r.entity? request = some key ∧ reply.events = some events ∧
          (before.latest r.model key).applyAll r.model events = .ok next ∧
          Stamped r.model (before.latest r.model key).version events ∧
          after = before.keep key next) := by
  cases request with
  | dispatchBatch | dispatchBatchTo => cases single
  | obtain | retire => exact ⟨proper, fun _ => rfl, .inl ⟨rfl, rfl, rfl⟩⟩
  | snapshot tenant id =>
      have captured := snapshot_cases view proper tenant id
      simp only [serve, Computation.bind_apply, Computation.pure_apply]
      rcases asked : r.snapshot tenant id w with ⟨reply, after⟩
      rw [asked] at captured
      obtain ⟨proper, ⟨error, -, same⟩ | ⟨-, held⟩⟩ := captured
      · rw [same]
        exact ⟨proper, fun _ => rfl, .inl ⟨rfl, rfl, rfl⟩⟩
      · rw [held]
        exact ⟨proper, fun _ => Inventory.isCaching_hold,
          .inl ⟨rfl, funext fun _ => Inventory.latest_hold_latest, rfl⟩⟩
  | dispatchTo actor command =>
      obtain ⟨proper, replied⟩ := dispatchTo_replied view proper actor command
      refine ⟨proper, fun _ => replied.isCaching, replied.cases.imp_right ?_⟩
      rintro ⟨events, next, changed⟩
      exact ⟨_, events, next, rfl, changed⟩
  | dispatch command =>
      cases target : r.keyOf? command with
      | none =>
          have missing : r.dispatch command w = (.ok (missingTarget command), w) := by
            simp only [dispatch, target, Computation.pure_apply]
          simp only [serve, Computation.bind_apply, Computation.pure_apply]
          rw [missing]
          exact ⟨proper, fun _ => rfl, .inl ⟨rfl, rfl, rfl⟩⟩
      | some key =>
          obtain ⟨proper, replied⟩ := dispatch_replied view proper target
          refine ⟨proper, fun _ => replied.isCaching, replied.cases.imp_right ?_⟩
          rintro ⟨events, next, changed⟩
          exact ⟨key, events, next, target, changed⟩

end Repository

end Switchboard
