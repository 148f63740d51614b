import Switchboard.Proofs.Repository.Worker

namespace Switchboard.Repository

/-! Sending work to actors. A reply comes either from the work itself, or from an actor that
has ended before it came to it. -/

variable {β σ α : Type} {r : Repository β σ} {w : World (RepositoryState β σ)}

/-- The world as an actor sees it. -/
def inside (w : World (RepositoryState β σ)) : World (Cached β (Root σ)) := ⟨w.supply, w.outside.cached⟩

@[simp] theorem inside_actor (key : EntityKey) :
    inside (Act.outside (actor key : StateM (RepositoryState β σ) ActorRef) w).2 = inside w := rfl

@[simp] theorem actor_key (key : EntityKey) :
    (Act.outside (actor key : StateM (RepositoryState β σ) ActorRef) w).1.key = key :=
  w.outside.actors.obtain_key key

theorem actor_isAlive (w : World (RepositoryState β σ)) (key : EntityKey) :
    (Act.outside (actor key : StateM (RepositoryState β σ) ActorRef) w).2.outside.actors.isAlive
      (Act.outside (actor key : StateM (RepositoryState β σ) ActorRef) w).1 = true :=
  w.outside.actors.obtain_isAlive key

variable {actor : ActorRef} {work : Act (Cached β (Root σ)) (Except DispatchError α)}

theorem sending_apply (r : Repository β σ) (w : World (RepositoryState β σ)) :
    Act.outside r.sending w = (r.late w.outside.sent,
      ⟨w.supply, { w.outside with sent := w.outside.sent + 1 }⟩) := rfl

theorem send_late (late : r.late w.outside.sent = true) :
    r.send actor work w = (.error .actorGone, ⟨w.supply,
      ⟨w.outside.cached, w.outside.actors.stop actor, w.outside.sent + 1⟩⟩) := by
  simp only [send, Computation.bind_apply]
  rw [sending_apply, late]
  simp [stopping, Actors.stop_isAlive]

theorem send_ended (prompt : r.late w.outside.sent = false)
    (ended : w.outside.actors.isAlive actor = false) :
    r.send actor work w = (.error .actorGone, ⟨w.supply,
      ⟨w.outside.cached, w.outside.actors, w.outside.sent + 1⟩⟩) := by
  simp only [send, Computation.bind_apply]
  rw [sending_apply, prompt]
  simp [ended]

/-- An actor that is there does the work, and ends over it if it gives no answer. -/
theorem send_alive (prompt : r.late w.outside.sent = false)
    (alive : w.outside.actors.isAlive actor = true) :
    r.send actor work w =
      let (reply, done) := work (inside w)
      (reply, ⟨done.supply, ⟨done.outside,
        match reply with
          | .error .actorGone => w.outside.actors.stop actor
          | _ => w.outside.actors,
        w.outside.sent + 1⟩⟩) := by
  simp only [send, Computation.bind_apply]
  rw [sending_apply, prompt]
  simp only [Bool.false_eq_true, if_false, Computation.bind_apply, Computation.get_apply, alive,
    if_true, working, inside]
  rcases work ⟨w.supply, w.outside.cached⟩ with ⟨(_ | _ | _) | _, done⟩ <;> rfl

/-- An actor either has ended and leaves all as it is, or it does the work. -/
theorem send_cases (r : Repository β σ) (actor : ActorRef)
    (work : Act (Cached β (Root σ)) (Except DispatchError α)) (w : World (RepositoryState β σ)) :
    let (reply, after) := r.send actor work w
    (reply = .error .actorGone ∧ inside after = inside w) ∨ work (inside w) = (reply, inside after) := by
  cases late : r.late w.outside.sent with
  | true =>
      rw [send_late late]
      exact .inl ⟨rfl, rfl⟩
  | false =>
      cases alive : w.outside.actors.isAlive actor with
      | false =>
          rw [send_ended late alive]
          exact .inl ⟨rfl, rfl⟩
      | true =>
          rw [send_alive late alive]
          exact .inr rfl

/-- What holds if nothing is done and also once the work is done, holds after sending it. -/
theorem send_keeps {P : Except DispatchError α → World (Cached β (Root σ)) → Prop}
    (missed : P (.error .actorGone) (inside w))
    (worked : P (work (inside w)).1 (work (inside w)).2) :
    P (r.send actor work w).1 (inside (r.send actor work w).2) := by
  have sending := send_cases r actor work w
  rcases sent : r.send actor work w with ⟨reply, after⟩
  rw [sent] at sending
  obtain ⟨rfl, same⟩ | done := sending
  · exact same ▸ missed
  · rwa [done] at worked

variable (view : r.storage.View) {key : EntityKey} {command : Signal}

theorem keyFor_normal (tenant : Option TenantId) (id : String) :
    r.cache.normalize (r.keyFor tenant id) = r.keyFor tenant id := by
  cases multitenant : r.multitenant <;> simp [EntityCache.normalize, cache, keyFor, multitenant]

theorem keyOf_normal (target : r.keyOf? command = some key) : r.cache.normalize key = key := by
  obtain ⟨id, -, rfl⟩ := Option.map_eq_some_iff.mp target
  exact keyFor_normal _ _

theorem dispatchTo_replied (proper : r.Proper w.outside.cached) (actor : ActorRef) (command : Signal) :
    let (reply, after) := r.dispatchTo actor command w
    r.Proper after.outside.cached ∧
      (r.inventory view w.outside.cached).Replied r.model (r.cache.normalize actor.key) reply
        (r.inventory view after.outside.cached) :=
  send_keeps (P := fun reply after => r.Proper after.outside ∧
      (r.inventory view w.outside.cached).Replied r.model (r.cache.normalize actor.key) reply
        (r.inventory view after.outside))
    ⟨proper, .missed _⟩ (worker_replied view (w := inside w) proper actor.key command)

/-- A command may be sent twice, but then the first actor ended over it or before it. -/
theorem dispatch_attempts (w : World (RepositoryState β σ)) (target : r.keyOf? command = some key) :
    let (reply, after) := r.dispatch command w
    ∃ middle : World (Cached β (Root σ)),
      (middle = inside w ∨ r.worker.dispatch key command (inside w) = (.error .actorGone, middle)) ∧
      ((reply = .error .actorGone ∧ inside after = middle) ∨
        r.worker.dispatch key command middle = (reply, inside after)) := by
  have first := send_cases r (Act.outside (actor key) w).1 (r.worker.dispatch key command)
    (Act.outside (actor key) w).2
  rw [inside_actor] at first
  simp only [dispatch, target, dispatchTo, Computation.bind_apply, actor_key]
  rcases sent : r.send (Act.outside (actor key) w).1 (r.worker.dispatch key command)
    (Act.outside (actor key) w).2 with ⟨reply, between⟩
  rw [sent] at first
  by_cases gone : reply = .error .actorGone
  · subst gone
    have second := send_cases r (Act.outside (actor key) between).1 (r.worker.dispatch key command)
      (Act.outside (actor key) between).2
    rw [inside_actor] at second
    simp only [Computation.bind_apply, actor_key]
    refine ⟨inside between, first.imp And.right id, second⟩
  · refine ⟨inside w, .inl rfl, .inr ?_⟩
    have worked := first.resolve_left fun missed => gone missed.1
    rcases reply with (_ | _ | _) | _
    case error.actorGone => exact absurd rfl gone
    all_goals exact worked

/-- A command is answered once, however often it is sent. -/
theorem dispatch_replied (proper : r.Proper w.outside.cached) (target : r.keyOf? command = some key) :
    let (reply, after) := r.dispatch command w
    r.Proper after.outside.cached ∧
      (r.inventory view w.outside.cached).Replied r.model key reply
        (r.inventory view after.outside.cached) := by
  have attempts := dispatch_attempts w target
  rcases sent : r.dispatch command w with ⟨reply, after⟩
  rw [sent] at attempts
  obtain ⟨middle, first, last⟩ := attempts
  have begun : r.Proper middle.outside ∧ (middle = inside w ∨
      (r.inventory view w.outside.cached).Replied r.model key (.error .actorGone)
        (r.inventory view middle.outside)) := by
    obtain rfl | worked := first
    · exact ⟨proper, .inl rfl⟩
    · have worker := worker_replied view (w := inside w) proper key command
      rw [worked, keyOf_normal target] at worker
      exact ⟨worker.1, .inr worker.2⟩
  have ended : r.Proper after.outside.cached ∧
      (r.inventory view middle.outside).Replied r.model key reply
        (r.inventory view after.outside.cached) := by
    obtain ⟨rfl, same⟩ | worked := last
    · have same : after.outside.cached = middle.outside := congrArg World.outside same
      exact ⟨same ▸ begun.1, same ▸ .missed _⟩
    · have worker := worker_replied view (w := middle) begun.1 key command
      rw [worked, keyOf_normal target] at worker
      exact worker
  refine ⟨ended.1, ?_⟩
  obtain rfl | replied := begun.2
  · exact ended.2
  · exact replied.again ended.2

theorem snapshot_cases (proper : r.Proper w.outside.cached) (tenant : Option TenantId) (id : String) :
    let key := r.keyFor tenant id
    let before := r.inventory view w.outside.cached
    let (reply, after) := r.snapshot tenant id w
    r.Proper after.outside.cached ∧
      ((∃ error, reply = .error error ∧ r.inventory view after.outside.cached = before) ∨
        (reply = .ok (before.latest r.model key) ∧
          r.inventory view after.outside.cached = before.hold key (before.latest r.model key))) := by
  have working := worker_snapshot view (w := inside w) proper (r.keyFor tenant id)
  rw [keyFor_normal] at working
  simp only [snapshot, Computation.bind_apply, actor_key]
  generalize r.keyFor tenant id = key at working ⊢
  refine send_keeps (P := fun reply after => r.Proper after.outside ∧
    ((∃ error, reply = .error error ∧ r.inventory view after.outside = r.inventory view w.outside.cached) ∨
      (reply = .ok ((r.inventory view w.outside.cached).latest r.model key) ∧
        r.inventory view after.outside = (r.inventory view w.outside.cached).hold key
          ((r.inventory view w.outside.cached).latest r.model key)))) ⟨proper, .inl ⟨_, rfl, rfl⟩⟩ ?_
  obtain ⟨proper, ⟨error, failed, -, same⟩ | held⟩ := working
  · exact ⟨proper, .inl ⟨_, failed, same⟩⟩
  · exact ⟨proper, .inr held⟩

theorem snapshot_latest (view : r.storage.View) (proper : r.Proper w.outside.cached)
    {tenant : Option TenantId} {id : String} {s : Snapshot σ}
    (captured : (r.snapshot tenant id w).1 = .ok s) :
    s = (r.inventory view w.outside.cached).latest r.model (r.keyFor tenant id) := by
  have cases := snapshot_cases view proper tenant id
  rcases asked : r.snapshot tenant id w with ⟨reply, after⟩
  rw [asked] at cases captured
  obtain ⟨-, ⟨error, rfl, -⟩ | ⟨rfl, -⟩⟩ := cases
  · cases captured
  · exact (Except.ok.inj captured).symm

end Switchboard.Repository
