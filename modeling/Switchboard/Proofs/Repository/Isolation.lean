import Switchboard.Proofs.Repository.Twins
import Switchboard.Proofs.Sample.Branch

namespace Switchboard

/-! Entities do not notice each other, and neither do tenants. -/

variable {β σ : Type}

/-- Replies that differ at most in new ids and in times told after the start. -/
inductive Reply.Like (start : Supply) : Reply σ → Reply σ → Prop where
  | dispatched {first second : Except DispatchError Outcome} (alike : Matching Outcome.Like first second) :
      Like start (.dispatched first) (.dispatched second)
  | captured {first second : Except DispatchError (Snapshot σ)} (alike : Matching (Snapshot.Like start) first second) :
      Like start (.captured first) (.captured second)
  | none : Like start .none .none

namespace Request

/-- Commands and snapshots one at a time, and what befalls actors meanwhile. -/
def isSingle : Request → Bool
  | .dispatch _ | .snapshot _ _ | .obtain _ | .retire _ => true
  | _ => false

/-- Who asks. -/
def tenant : Request → Option TenantId
  | .dispatch command => command.tenant
  | .snapshot tenant _ => tenant
  | .obtain key | .retire key => key.tenant
  | _ => Option.none

end Request

namespace Repository

/-- The entity that a request is about. -/
def addressee? (r : Repository β σ) : Request → Option EntityKey
  | .dispatch command => r.keyOf? command
  | .snapshot tenant id => some (r.keyFor tenant id)
  | .obtain key | .retire key => some key
  | _ => none

variable {r : Repository β σ} {view : r.storage.View} {start : Supply} {own : EntityKey → Prop}
  {request : Request} {w v : World (RepositoryState β σ)}

theorem dispatch_sent (r : Repository β σ) (command : Signal) (w : World (RepositoryState β σ)) :
    w.outside.sent ≤ (r.dispatch command w).2.outside.sent := by
  cases target : r.keyOf? command with
  | none =>
      have unsent := congrArg (fun answered => answered.2.outside.sent) (dispatch_homeless (w := w) target)
      exact Nat.le_of_eq unsent.symm
  | some key =>
      have sent := attempt_sent r key (r.worker.dispatch key command)
      by_cases gone : (r.attempt key (r.worker.dispatch key command) w).1 = .error .actorGone
      · rw [dispatch_twice target gone, sent, sent]
        omega
      · rw [dispatch_once target gone, sent]
        omega

theorem serve_sent (single : request.isSingle = true) (w : World (RepositoryState β σ)) :
    w.outside.sent ≤ (r.serve request w).2.outside.sent := by
  cases request with
  | dispatchTo | dispatchBatch | dispatchBatchTo => cases single
  | obtain | retire => exact Nat.le_refl _
  | snapshot tenant id =>
      simp only [serve, Computation.bind_apply, Computation.pure_apply, snapshot_attempt, attempt_sent]
      omega
  | dispatch command =>
      simp only [serve, Computation.bind_apply, Computation.pure_apply]
      exact r.dispatch_sent command w

theorem serve_foreign {v : World (Cached β (Root σ))} (reliable : r.storage.Reliable)
    (single : request.isSingle = true) (foreign : ∀ key, r.addressee? request = some key → ¬ own key)
    (twins : r.Twins view start own (inside w) v) :
    r.Twins view start own (inside (r.serve request w).2) v := by
  cases request with
  | dispatchTo | dispatchBatch | dispatchBatchTo => cases single
  | obtain | retire => exact twins
  | snapshot tenant id =>
      simp only [serve, Computation.bind_apply, Computation.pure_apply, snapshot_attempt]
      exact attempt_foreign _ (worker_snapshot_foreign reliable (keyFor_normal tenant id)) twins
  | dispatch command =>
      simp only [serve, Computation.bind_apply, Computation.pure_apply]
      cases target : r.keyOf? command with
      | none =>
          rw [dispatch_homeless target]
          exact twins
      | some key =>
          have unmoved : r.Foreign view start own (r.worker.dispatch key command) :=
            worker_dispatch_foreign reliable (keyOf_normal target) (foreign key target) command
          have once := attempt_foreign key unmoved twins
          by_cases gone : (r.attempt key (r.worker.dispatch key command) w).1 = .error .actorGone
          · rw [dispatch_twice target gone]
            exact attempt_foreign key unmoved once
          · rw [dispatch_once target gone]
            exact once

theorem dispatch_twinned {late : Nat → Bool} (reliable : r.storage.Reliable) {key : EntityKey} {command : Signal}
    (target : r.keyOf? command = some key) (owned : own key)
    (agree : ∀ n, w.outside.sent + n < (r.dispatch command w).2.outside.sent →
      late (v.outside.sent + n) = r.late (w.outside.sent + n))
    (twins : r.Twins view start own (inside w) (inside v)) :
    Matching Outcome.Like (r.dispatch command w).1 ((r.retimed late).dispatch command v).1 ∧
      r.Twins view start own (inside (r.dispatch command w).2) (inside ((r.retimed late).dispatch command v).2) ∧
      ∃ messages, (r.dispatch command w).2.outside.sent = w.outside.sent + messages ∧
        ((r.retimed late).dispatch command v).2.outside.sent = v.outside.sent + messages := by
  have twinned : r.Twinned view start own Outcome.Like (r.worker.dispatch key command) :=
    worker_dispatch_twinned reliable (keyOf_normal target) owned command
  have sent := attempt_sent r key (r.worker.dispatch key command)
  have resent := attempt_sent (r.retimed late) key (r.worker.dispatch key command)
  by_cases gone : (r.attempt key (r.worker.dispatch key command) w).1 = .error .actorGone
  · rw [dispatch_twice target gone] at agree ⊢
    simp only [sent] at agree
    obtain ⟨replies, between⟩ := attempt_twinned key (agree 0 (by omega)) twinned twins
    have twice : (r.retimed late).dispatch command v = _ := dispatch_twice target (replies.error_iff.mp gone)
    have again : late ((r.retimed late).attempt key (r.worker.dispatch key command) v).2.outside.sent =
        r.late (r.attempt key (r.worker.dispatch key command) w).2.outside.sent := by
      rw [resent, sent]
      exact agree 1 (by omega)
    obtain ⟨answers, after⟩ := attempt_twinned key again twinned between
    rw [twice]
    exact ⟨answers, after, 2, by rw [sent, sent], (resent _).trans (congrArg Nat.succ (resent v))⟩
  · rw [dispatch_once target gone] at agree ⊢
    simp only [sent] at agree
    obtain ⟨replies, after⟩ := attempt_twinned key (agree 0 (by omega)) twinned twins
    have once : (r.retimed late).dispatch command v = _ :=
      dispatch_once target fun lost => gone (replies.error_iff.mpr lost)
    rw [once]
    exact ⟨replies, after, 1, sent w, resent v⟩

/-- A request about an entity in question has like replies on twins, if its messages come too late
on both or on neither. -/
theorem serve_twinned {late : Nat → Bool} (reliable : r.storage.Reliable) (single : request.isSingle = true)
    (owned : ∀ key, r.addressee? request = some key → own key)
    (agree : ∀ n, w.outside.sent + n < (r.serve request w).2.outside.sent →
      late (v.outside.sent + n) = r.late (w.outside.sent + n))
    (twins : r.Twins view start own (inside w) (inside v)) :
    (r.serve request w).1.Like start ((r.retimed late).serve request v).1 ∧
      r.Twins view start own (inside (r.serve request w).2) (inside ((r.retimed late).serve request v).2) ∧
      ∃ messages, (r.serve request w).2.outside.sent = w.outside.sent + messages ∧
        ((r.retimed late).serve request v).2.outside.sent = v.outside.sent + messages := by
  cases request with
  | dispatchTo | dispatchBatch | dispatchBatchTo => cases single
  | obtain | retire => exact ⟨.none, twins, 0, rfl, rfl⟩
  | snapshot tenant id =>
      simp only [serve, Computation.bind_apply, Computation.pure_apply, snapshot_attempt, attempt_sent] at agree ⊢
      have twinned : r.Twinned view start own (Snapshot.Like start) (r.worker.snapshot (r.keyFor tenant id)) :=
        worker_snapshot_twinned reliable (keyFor_normal tenant id) (owned _ rfl)
      obtain ⟨replies, after⟩ := attempt_twinned (r.keyFor tenant id) (agree 0 (by omega)) twinned twins
      exact ⟨.captured replies, after, 1, rfl, rfl⟩
  | dispatch command =>
      simp only [serve, Computation.bind_apply, Computation.pure_apply] at agree ⊢
      cases target : r.keyOf? command with
      | none =>
          have elsewhere : (r.retimed late).dispatch command v = _ := dispatch_homeless target
          rw [dispatch_homeless target, elsewhere]
          exact ⟨.dispatched (.ok (.refl _)), twins, 0, rfl, rfl⟩
      | some key =>
          obtain ⟨replies, after, counts⟩ := dispatch_twinned reliable target (owned key target) agree twins
          exact ⟨.dispatched replies, after, counts⟩

/-- Messages of one run, counted from the first on, as those of another that has sent some. -/
structure Numbering (sent first : Nat) (nth : Nat → Nat) : Prop where
  above : ∀ n, first ≤ n → sent ≤ nth n
  rising : ∀ m n, first ≤ m → m < n → nth m < nth n

/-- Some messages that both runs send next, and those after them. -/
def numbered (sent first messages : Nat) (nth : Nat → Nat) (n : Nat) : Nat :=
  if n < first + messages then sent + (n - first) else nth n

section Numbered

variable {sent first messages n : Nat} {nth : Nat → Nat}

theorem numbered_next (next : n < messages) : numbered sent first messages nth (first + n) = sent + n := by
  rw [numbered, if_pos (by omega)]
  omega

theorem numbered_after (after : first + messages ≤ n) : numbered sent first messages nth n = nth n := by
  rw [numbered, if_neg (by omega)]

theorem Numbering.numbered (numbering : Numbering (sent + messages) (first + messages) nth) :
    Numbering sent first (numbered sent first messages nth) := by
  constructor
  · intro n later
    by_cases after : first + messages ≤ n
    · rw [numbered_after after]
      have beyond := numbering.above n after
      omega
    · obtain ⟨n, rfl⟩ := Nat.exists_eq_add_of_le later
      rw [numbered_next (by omega)]
      omega
  · intro m n later before
    by_cases after : first + messages ≤ m
    · rw [numbered_after after, numbered_after (by omega)]
      exact numbering.rising m n after before
    · obtain ⟨m, rfl⟩ := Nat.exists_eq_add_of_le later
      rw [numbered_next (by omega)]
      by_cases behind : first + messages ≤ n
      · rw [numbered_after behind]
        have beyond := numbering.above n behind
        omega
      · obtain ⟨n, rfl⟩ := Nat.exists_eq_add_of_le (Nat.le_of_lt (Nat.lt_of_le_of_lt later before))
        rw [numbered_next (by omega)]
        omega

end Numbered

/-- The requests that are kept are about entities in question, and the others are not. -/
structure Divides (r : Repository β σ) (keep : Request → Bool) (own : EntityKey → Prop) (request : Request) :
    Prop where
  single : request.isSingle = true
  divided : ∀ key, r.addressee? request = some key → (keep request = true ↔ own key)

def Told (start : Supply) (entry other : Request × Reply σ) : Prop := entry.1 = other.1 ∧ entry.2.Like start other.2

theorem serveAll_twinned (view : r.storage.View) (start : Supply) (reliable : r.storage.Reliable)
    {keep : Request → Bool} {requests : List Request}
    (divides : ∀ request ∈ requests, r.Divides keep own request) (w : World (RepositoryState β σ)) (first : Nat) :
    ∃ nth, Numbering w.outside.sent first nth ∧
      ∀ (late : Nat → Bool) (v : World (RepositoryState β σ)), (∀ n, first ≤ n → late n = r.late (nth n)) →
        v.outside.sent = first → r.Twins view start own (inside w) (inside v) →
        List.Forall₂ (Told start) ((r.serveAll requests w).1.filter fun entry => keep entry.1)
          ((r.retimed late).serveAll (requests.filter keep) v).1 := by
  induction requests generalizing w first with
  | nil =>
      refine ⟨fun n => w.outside.sent + (n - first), ⟨fun n _ => Nat.le_add_right _ _, ?_⟩, fun _ _ _ _ _ => .nil⟩
      intro m n later before
      omega
  | cons request rest ih =>
      obtain ⟨here, others⟩ := List.forall_mem_cons.mp divides
      obtain ⟨messages, grown⟩ := Nat.exists_eq_add_of_le (serve_sent here.single w)
      by_cases kept : keep request = true
      · obtain ⟨nth, numbering, alike⟩ := ih others (r.serve request w).2 (first + messages)
        rw [grown] at numbering
        refine ⟨numbered w.outside.sent first messages nth, numbering.numbered, ?_⟩
        intro late v agree begun twins
        have owned : ∀ key, r.addressee? request = some key → own key := by
          intro key addressed
          exact (here.divided key addressed).mp kept
        have timed : ∀ n, w.outside.sent + n < (r.serve request w).2.outside.sent →
            late (v.outside.sent + n) = r.late (w.outside.sent + n) := by
          intro n among
          rw [begun, agree _ (Nat.le_add_right _ _), numbered_next (by omega)]
        obtain ⟨reply, twins, sent, counts, recounts⟩ := serve_twinned reliable here.single owned timed twins
        have after := alike late ((r.retimed late).serve request v).2 (fun n later => by
          rw [agree n (by omega), numbered_after later]) (by omega) twins
        simp only [serveAll, List.filter_cons, kept, if_true, Computation.bind_apply, Computation.pure_apply]
        exact .cons ⟨rfl, reply⟩ after
      · obtain ⟨nth, numbering, alike⟩ := ih others (r.serve request w).2 first
        have above : ∀ n, first ≤ n → w.outside.sent ≤ nth n := by
          intro n later
          have beyond := numbering.above n later
          omega
        refine ⟨nth, ⟨above, numbering.rising⟩, ?_⟩
        intro late v agree begun twins
        have foreign : ∀ key, r.addressee? request = some key → ¬ own key := by
          intro key addressed owned
          exact kept ((here.divided key addressed).mpr owned)
        have after := alike late v agree begun (serve_foreign reliable here.single foreign twins)
        simpa [serveAll, kept] using after

/-- A run of the requests that are kept alone has like replies to them. Those of its messages come too
late that did as messages of the whole run. -/
def Undisturbed (r : Repository β σ) (keep : Request → Bool) (requests : List Request)
    (w : World (RepositoryState β σ)) : Prop :=
  ∃ nth, Numbering w.outside.sent w.outside.sent nth ∧
    List.Forall₂ (Told w.supply) ((r.serveAll requests w).1.filter fun entry => keep entry.1)
      ((r.retimed (r.late ∘ nth)).serveAll (requests.filter keep) w).1

theorem undisturbed (own : EntityKey → Prop) (view : r.storage.View) (reliable : r.storage.Reliable)
    (proper : r.Proper w.outside.cached) {keep : Request → Bool} {requests : List Request}
    (divides : ∀ request ∈ requests, r.Divides keep own request) : r.Undisturbed keep requests w := by
  obtain ⟨nth, numbering, alike⟩ := serveAll_twinned view w.supply reliable divides w w.outside.sent
  have twins : r.Twins view w.supply own (inside w) (inside w) :=
    ⟨proper, proper, .refl _, .refl _, fun key _ => .refl _ _⟩
  exact ⟨nth, numbering, alike _ w (fun _ _ => rfl) rfl twins⟩

theorem keyFor_eq_iff {tenant other : Option TenantId} {id another : String} :
    r.keyFor tenant id = r.keyFor other another ↔ id = another ∧ (r.multitenant = true → tenant = other) := by
  cases multitenant : r.multitenant <;> simp [keyFor, multitenant, and_comm]

theorem tenant_of_addressee (multitenant : r.multitenant = true) {key : EntityKey} (single : request.isSingle = true)
    (addressed : r.addressee? request = some key) : key.tenant = request.tenant := by
  cases request with
  | dispatchTo | dispatchBatch | dispatchBatchTo => cases single
  | obtain | retire | snapshot =>
      cases addressed
      simp [Request.tenant, keyFor, multitenant]
  | dispatch command =>
      obtain ⟨id, -, rfl⟩ := Option.map_eq_some_iff.mp addressed
      simp [Request.tenant, keyFor, multitenant]

/-- With a storage that never fails, what is told of an entity is told alike if nothing else is
asked for. So it is with all that a tenant is told, where tenants are told apart; where they are
not, an id names the same entity for all of them. -/
theorem entities_undisturbed (view : r.storage.View) (reliable : r.storage.Reliable)
    (proper : r.Proper w.outside.cached) {requests : List Request}
    (single : ∀ request ∈ requests, request.isSingle = true) :
    (∀ key, r.Undisturbed (fun request => r.addressee? request = some key) requests w) ∧
    (r.multitenant = true → ∀ tenant, r.Undisturbed (fun request => request.tenant = tenant) requests w) ∧
    ∀ tenant other id another,
      r.keyFor tenant id = r.keyFor other another ↔ id = another ∧ (r.multitenant = true → tenant = other) := by
  refine ⟨fun key => ?_, fun multitenant tenant => ?_, fun _ _ _ _ => keyFor_eq_iff⟩
  · apply undisturbed (· = key) view reliable proper
    intro request among
    refine ⟨single request among, fun other addressed => ?_⟩
    simp [addressed]
  · apply undisturbed (·.tenant = tenant) view reliable proper
    intro request among
    refine ⟨single request among, fun key addressed => ?_⟩
    simp [tenant_of_addressee multitenant (single request among) addressed]

/-- If no message comes too late, numbering the messages anew makes no difference. -/
theorem retimed_prompt (prompt : ∀ n, r.late n = false) (nth : Nat → Nat) : r.retimed (r.late ∘ nth) = r := by
  have same : r.late ∘ nth = r.late := funext fun n => (prompt (nth n)).trans (prompt n).symm
  rw [same]
  rfl

namespace Visits

open Sample Branch

def acme : TenantId := ⟨"acme"⟩

/-- Both tenants have an account of that name; one opens it, the other is turned away. -/
def requests : List Request :=
  [.dispatch (ofTenant acme (opening "a")), .dispatch (ofTenant ⟨"globex"⟩ (deposit "a")),
    .dispatch (ofTenant acme (deposit "a")), .snapshot (some ⟨"globex"⟩) "a", .snapshot (some acme) "a"]

end Visits

open Sample Branch in
/-- One tenant is told the same whether or not the other asks about its own account of that name. -/
theorem entities_undisturbed_chain :
    (Visits.requests.filter fun request => request.tenant = some Visits.acme).length = 3 ∧
    List.Forall₂ (Told supply)
      ((chain.serveAll Visits.requests archiveStart).1.filter fun entry => entry.1.tenant = some Visits.acme)
      (chain.serveAll (Visits.requests.filter fun request => request.tenant = some Visits.acme) archiveStart).1 := by
  have reliable : chain.storage.Reliable := Logged.reliable MemoryRecords.reliable
  have proper : chain.Proper archiveStart.outside.cached := proper_of_uncached (RepositoryState.cold_uncached _)
  have single : ∀ request ∈ Visits.requests, request.isSingle = true := by decide
  obtain ⟨-, tenants, -⟩ := entities_undisturbed chainView reliable proper single
  obtain ⟨nth, -, alike⟩ := tenants rfl (some Visits.acme)
  rw [retimed_prompt (fun _ => rfl)] at alike
  exact ⟨by decide, alike⟩

end Repository

end Switchboard
