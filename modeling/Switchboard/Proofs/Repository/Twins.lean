import Switchboard.Proofs.Repository.Requests
import Switchboard.Proofs.Repository.Sequential

namespace Switchboard.Repository

/-! Two runs of a repository that some of its entities cannot tell apart. In one of them others may
be at work as well, which takes ids, times and messages, but nothing that those entities tell of. -/

variable {β σ α : Type} {r : Repository β σ} {view : r.storage.View} {start : Supply} {own : EntityKey → Prop}
  {key : EntityKey} {command : Signal}

/-- The repository with other actors coming too late. -/
def retimed (r : Repository β σ) (late : Nat → Bool) : Repository β σ := { r with late }

/-- The entities in question are alike. -/
structure Twins (r : Repository β σ) (view : r.storage.View) (start : Supply) (own : EntityKey → Prop)
    (w v : World (Cached β (Root σ))) : Prop where
  proper : r.Proper w.outside
  proper_twin : r.Proper v.outside
  later : start.Later w.supply
  later_twin : start.Later v.supply
  latest : ∀ key, own key → ((r.inventory view w.outside).latest r.model key).Like start
    ((r.inventory view v.outside).latest r.model key)

/-- Two steps have like results on twins, and leave them twins. -/
def Twinned (r : Repository β σ) (view : r.storage.View) (start : Supply) (own : EntityKey → Prop)
    (like : α → α → Prop) (step : Act (Cached β (Root σ)) (Except DispatchError α)) : Prop :=
  ∀ ⦃w v⦄, r.Twins view start own w v →
    Matching like (step w).1 (step v).1 ∧ r.Twins view start own (step w).2 (step v).2

/-- A step leaves twins that it is not taken by. -/
def Foreign (r : Repository β σ) (view : r.storage.View) (start : Supply) (own : EntityKey → Prop)
    (step : Act (Cached β (Root σ)) (Except DispatchError α)) : Prop :=
  ∀ ⦃w v⦄, r.Twins view start own w v → r.Twins view start own (step w).2 v

section Worker

variable (reliable : r.storage.Reliable)
include reliable

theorem worker_dispatch_twinned (plain : r.cache.normalize key = key) (owned : own key) (command : Signal) :
    r.Twinned view start own Outcome.Like (r.worker.dispatch key command) := by
  intro w v twins
  have first := worker_answer view reliable twins.proper key command
  have second := worker_answer view reliable twins.proper_twin key command
  rw [plain] at first second
  rcases worked : r.worker.dispatch key command w with ⟨reply, after⟩
  rcases again : r.worker.dispatch key command v with ⟨answer, ended⟩
  rw [worked] at first
  rw [again] at second
  obtain ⟨proper, -, next, answered, latest⟩ := first
  obtain ⟨proper_twin, -, last, told, newest⟩ := second
  have like := answer_like r.model key command (twins.latest key owned) twins.later twins.later_twin
  have later := answer_later r.model key ((r.inventory view w.outside).latest r.model key) command twins.later
  have later_twin :=
    answer_later r.model key ((r.inventory view v.outside).latest r.model key) command twins.later_twin
  rw [answered, told] at like
  rw [answered] at later
  rw [told] at later_twin
  refine ⟨like.1, proper, proper_twin, later, later_twin, fun other ours => ?_⟩
  rw [latest, newest]
  split
  · exact like.2
  · exact twins.latest other ours

theorem worker_dispatch_foreign (plain : r.cache.normalize key = key) (foreign : ¬ own key) (command : Signal) :
    r.Foreign view start own (r.worker.dispatch key command) := by
  intro w v twins
  have answer := worker_answer view reliable twins.proper key command
  rw [plain] at answer
  rcases worked : r.worker.dispatch key command w with ⟨reply, after⟩
  rw [worked] at answer
  obtain ⟨proper, -, next, answered, latest⟩ := answer
  have later := answer_later r.model key ((r.inventory view w.outside).latest r.model key) command twins.later
  rw [answered] at later
  refine ⟨proper, twins.proper_twin, later, twins.later_twin, fun other ours => ?_⟩
  have beside : other ≠ key := by
    rintro rfl
    exact foreign ours
  rw [latest, if_neg beside]
  exact twins.latest other ours

variable (view) in
theorem worker_snapshot_latest (plain : r.cache.normalize key = key) {w : World (Cached β (Root σ))}
    (proper : r.Proper w.outside) : ∃ after, r.worker.snapshot key w =
        (.ok ((r.inventory view w.outside).latest r.model key), ⟨w.supply, after⟩) ∧
      r.Proper after ∧ (r.inventory view after).latest r.model = (r.inventory view w.outside).latest r.model := by
  have captured := worker_snapshot view proper key
  have undrawn : (r.worker.snapshot key w).2.supply = w.supply := by
    simp only [Worker.snapshot, Computation.bind_apply, Computation.outside_apply]
    cases (r.worker.cache.read key w.outside).1 <;> rfl
  rw [plain] at captured
  rcases taken : r.worker.snapshot key w with ⟨reply, supply, after⟩
  rw [taken] at captured undrawn
  obtain ⟨proper, ⟨_, -, unreliable, -⟩ | ⟨rfl, held⟩⟩ := captured
  · exact absurd reliable unreliable
  · obtain rfl : supply = w.supply := undrawn
    refine ⟨after, rfl, proper, ?_⟩
    rw [held]
    exact funext fun _ => Inventory.latest_hold_latest

theorem worker_snapshot_twinned (plain : r.cache.normalize key = key) (owned : own key) :
    r.Twinned view start own (Snapshot.Like start) (r.worker.snapshot key) := by
  intro w v twins
  obtain ⟨after, taken, proper, latest⟩ := worker_snapshot_latest view reliable plain twins.proper
  obtain ⟨ended, again, proper_twin, newest⟩ := worker_snapshot_latest view reliable plain twins.proper_twin
  rw [taken, again]
  refine ⟨.ok (twins.latest key owned), proper, proper_twin, twins.later, twins.later_twin, fun other ours => ?_⟩
  rw [latest, newest]
  exact twins.latest other ours

theorem worker_snapshot_foreign (plain : r.cache.normalize key = key) :
    r.Foreign view start own (r.worker.snapshot key) := by
  intro w v twins
  obtain ⟨after, taken, proper, latest⟩ := worker_snapshot_latest view reliable plain twins.proper
  rw [taken]
  refine ⟨proper, twins.proper_twin, twins.later, twins.later_twin, fun other ours => ?_⟩
  rw [latest]
  exact twins.latest other ours

end Worker

/-! What is sent to the actor of an entity reaches it, or comes too late. -/

section Attempt

variable {work : Act (Cached β (Root σ)) (Except DispatchError α)} {w v : World (RepositoryState β σ)}

def attempt (r : Repository β σ) (key : EntityKey) (work : Act (Cached β (Root σ)) (Except DispatchError α)) :
    Act (RepositoryState β σ) (Except DispatchError α) := do
  r.send (← Act.outside (actor key)) work

theorem attempt_late (late : r.late w.outside.sent = true) :
    (r.attempt key work w).1 = .error .actorGone ∧ inside (r.attempt key work w).2 = inside w ∧
      (r.attempt key work w).2.outside.sent = w.outside.sent + 1 := by
  have missed : r.send (Act.outside (actor key) w).1 work (Act.outside (actor key) w).2 = _ := send_late late
  rw [attempt, Computation.bind_apply, missed]
  exact ⟨rfl, rfl, rfl⟩

theorem attempt_prompt (prompt : r.late w.outside.sent = false) :
    (r.attempt key work w).1 = (work (inside w)).1 ∧ inside (r.attempt key work w).2 = (work (inside w)).2 ∧
      (r.attempt key work w).2.outside.sent = w.outside.sent + 1 := by
  have worked : r.send (Act.outside (actor key) w).1 work (Act.outside (actor key) w).2 = _ :=
    send_alive prompt (actor_isAlive w key)
  rw [attempt, Computation.bind_apply, worked]
  exact ⟨rfl, rfl, rfl⟩

theorem attempt_sent (r : Repository β σ) (key : EntityKey)
    (work : Act (Cached β (Root σ)) (Except DispatchError α)) (w : World (RepositoryState β σ)) :
    (r.attempt key work w).2.outside.sent = w.outside.sent + 1 := by
  cases late : r.late w.outside.sent with
  | true => exact (attempt_late late).2.2
  | false => exact (attempt_prompt late).2.2

theorem attempt_twinned (key : EntityKey) {like : α → α → Prop} {late : Nat → Bool}
    (agree : late v.outside.sent = r.late w.outside.sent)
    (twinned : r.Twinned view start own like work) (twins : r.Twins view start own (inside w) (inside v)) :
    Matching like (r.attempt key work w).1 ((r.retimed late).attempt key work v).1 ∧
      r.Twins view start own (inside (r.attempt key work w).2) (inside ((r.retimed late).attempt key work v).2) := by
  have timed : (r.retimed late).late v.outside.sent = r.late w.outside.sent := agree
  cases missed : r.late w.outside.sent with
  | true =>
      obtain ⟨gone, same, -⟩ : _ ∧ inside (r.attempt key work w).2 = _ ∧ _ := attempt_late missed
      obtain ⟨lost, still, -⟩ : _ ∧ inside ((r.retimed late).attempt key work v).2 = _ ∧ _ :=
        attempt_late (timed.trans missed)
      rw [gone, lost, same, still]
      exact ⟨.error _, twins⟩
  | false =>
      obtain ⟨reply, done, -⟩ : _ ∧ inside (r.attempt key work w).2 = _ ∧ _ := attempt_prompt missed
      obtain ⟨answer, ended, -⟩ : _ ∧ inside ((r.retimed late).attempt key work v).2 = _ ∧ _ :=
        attempt_prompt (timed.trans missed)
      rw [reply, answer, done, ended]
      exact twinned twins

theorem attempt_foreign (key : EntityKey) {v : World (Cached β (Root σ))} (foreign : r.Foreign view start own work)
    (twins : r.Twins view start own (inside w) v) :
    r.Twins view start own (inside (r.attempt key work w).2) v := by
  cases late : r.late w.outside.sent with
  | true =>
      rw [(attempt_late late).2.1]
      exact twins
  | false =>
      rw [(attempt_prompt late).2.1]
      exact foreign twins

theorem snapshot_attempt (tenant : Option TenantId) (id : String) :
    r.snapshot tenant id w = r.attempt (r.keyFor tenant id) (r.worker.snapshot (r.keyFor tenant id)) w := by
  simp only [snapshot, attempt, Computation.bind_apply, actor_key]

theorem dispatch_once (target : r.keyOf? command = some key)
    (reached : (r.attempt key (r.worker.dispatch key command) w).1 ≠ .error .actorGone) :
    r.dispatch command w = r.attempt key (r.worker.dispatch key command) w := by
  simp only [dispatch, target, dispatchTo, attempt, Computation.bind_apply, actor_key] at reached ⊢
  rcases sent : r.send (Act.outside (actor key) w).1 (r.worker.dispatch key command) (Act.outside (actor key) w).2 with
    ⟨(_ | _ | _) | _, after⟩
  case error.actorGone =>
    rw [sent] at reached
    exact absurd rfl reached
  all_goals rfl

theorem dispatch_twice (target : r.keyOf? command = some key)
    (gone : (r.attempt key (r.worker.dispatch key command) w).1 = .error .actorGone) :
    r.dispatch command w = r.attempt key (r.worker.dispatch key command)
      (r.attempt key (r.worker.dispatch key command) w).2 := by
  simp only [dispatch, target, dispatchTo, attempt, Computation.bind_apply, actor_key] at gone ⊢
  rw [gone]
  simp only [Computation.bind_apply, actor_key]

end Attempt

end Switchboard.Repository
