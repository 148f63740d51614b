import Switchboard.Proofs.Repository.Caching
import Switchboard.Proofs.Repository.Grouping
import Switchboard.Proofs.Repository.Requests
import Switchboard.Proofs.Sample.Branch

namespace Switchboard.Repository

/-! Durability. A success is recorded at once unless an earlier batch has left caching on. -/

variable {β σ : Type} {r : Repository β σ} (view : r.storage.View)

section Batches

variable {w : World (RepositoryState β σ)} {commands : List Signal}

theorem worker_batch_caching {w : World (Cached β (Root σ))} (proper : r.Proper w.outside)
    (key : EntityKey) (commands : List Signal) :
    let (replies, after) := r.worker.dispatchBatch key commands w
    r.Proper after.outside ∧ ∀ other, (r.inventory view after.outside).isCaching other = true →
      if other = r.cache.normalize key then commands = [] ∨ ∃ error, replies = .error error
      else (r.inventory view w.outside).isCaching other = true := by
  cases commands with
  | nil =>
      have batch := dispatchBatch_nil view proper key
      rcases done : r.worker.dispatchBatch key [] w with ⟨replies, after⟩
      rw [done] at batch
      refine ⟨batch.1, fun other on => ?_⟩
      split
      · exact .inl rfl
      · exact (batch.2 other on).resolve_left ‹_›
  | cons command rest =>
      have batch := dispatchBatch_cons view proper key command rest
      rcases done : r.worker.dispatchBatch key (command :: rest) w with ⟨replies, after⟩
      rw [done] at batch
      obtain ⟨proper, ⟨error, rfl, -, bounded⟩ | ⟨last, -, -, settled⟩⟩ := batch
      · refine ⟨proper, fun other on => ?_⟩
        split
        · exact .inr ⟨error, rfl⟩
        · exact (bounded other on).resolve_left ‹_›
      · refine ⟨proper, fun other on => ?_⟩
        rw [settled] at on
        simp only [Inventory.isCaching_settle, Bool.and_eq_true, Bool.not_eq_true',
          decide_eq_false_iff_not] at on
        rw [if_neg on.1]
        exact on.2

theorem dispatchBatchTo_caching (proper : r.Proper w.outside.cached) (actor : ActorRef)
    (commands : List Signal) :
    let (replies, after) := r.dispatchBatchTo actor commands w
    r.Proper after.outside.cached ∧
      ∀ other, (r.inventory view after.outside.cached).isCaching other = true →
        if other = r.cache.normalize actor.key then commands = [] ∨ ∃ error, replies = .error error
        else (r.inventory view w.outside.cached).isCaching other = true := by
  refine send_keeps (P := fun replies after => r.Proper after.outside ∧
    ∀ other, (r.inventory view after.outside).isCaching other = true →
      if other = r.cache.normalize actor.key then commands = [] ∨ ∃ error, replies = .error error
      else (r.inventory view w.outside.cached).isCaching other = true) ?_
    (worker_batch_caching view (w := inside w) proper actor.key commands)
  refine ⟨proper, fun other on => ?_⟩
  split
  · exact .inr ⟨_, rfl⟩
  · exact on

theorem dispatchGroups_caching (proper : r.Proper w.outside.cached)
    {groups : List (EntityKey × List (Nat × Signal))}
    (formed : ∀ group ∈ groups, r.cache.normalize group.1 = group.1 ∧ group.2 ≠ []) :
    let (outcomes, after) := r.dispatchGroups groups w
    r.Proper after.outside.cached ∧
      ∀ other, (r.inventory view after.outside.cached).isCaching other = true →
        if other ∈ groups.map Prod.fst then ∃ error, outcomes = .error error
        else (r.inventory view w.outside.cached).isCaching other = true := by
  induction groups generalizing w with
  | nil => exact ⟨proper, fun other on => by simpa using on⟩
  | cons group rest ih =>
      obtain ⟨key, commands⟩ := group
      obtain ⟨⟨normal, some⟩, formed⟩ := List.forall_mem_cons.mp formed
      have first := dispatchBatchTo_caching view (w := (Act.outside (actor key) w).2) proper
        (Act.outside (actor key) w).1 (commands.map Prod.snd)
      rw [actor_key, normal] at first
      simp only [dispatchGroups, Computation.bind_apply]
      rcases done : r.dispatchBatchTo (Act.outside (actor key) w).1 (commands.map Prod.snd)
        (Act.outside (actor key) w).2 with ⟨replies, middle⟩
      rw [done] at first
      obtain ⟨proper, first⟩ := first
      cases replies with
      | error error =>
          refine ⟨proper, fun other on => ?_⟩
          split
          · exact ⟨error, rfl⟩
          · rename_i outside
            have elsewhere : other ≠ key := fun same => outside (by simp [same])
            exact (if_neg elsewhere).mp (first other on)
      | ok outcomes =>
          have later := ih proper formed
          simp only [Computation.bind_apply, Computation.pure_apply]
          rcases done : r.dispatchGroups rest middle with ⟨others, after⟩
          rw [done] at later
          refine ⟨later.1, fun other on => ?_⟩
          have later := later.2 other on
          by_cases again : other ∈ rest.map Prod.fst
          · rw [if_pos again] at later
            obtain ⟨error, rfl⟩ := later
            rw [if_pos (by simp [again])]
            exact ⟨error, rfl⟩
          · rw [if_neg again] at later
            have here := first other later
            have elsewhere : other ≠ key := by
              rintro rfl
              simp [some] at here
            rw [if_neg elsewhere] at here
            rwa [if_neg (by simp [again, elsewhere])]

theorem dispatchBatch_caching (proper : r.Proper w.outside.cached) (commands : List Signal) :
    let (outcomes, after) := r.dispatchBatch commands w
    r.Proper after.outside.cached ∧
      ∀ other, (r.inventory view after.outside.cached).isCaching other = true →
        if ∃ command ∈ commands, r.keyOf? command = some other then ∃ error, outcomes = .error error
        else (r.inventory view w.outside.cached).isCaching other = true := by
  have batches := dispatchGroups_caching view proper
    (grouped_formed r (commands.zipIdx.map Prod.swap))
  simp only [dispatchBatch, Computation.bind_apply, Computation.pure_apply]
  rcases done : r.dispatchGroups (r.grouped (commands.zipIdx.map Prod.swap)).entries w with
    ⟨outcomes, after⟩
  rw [done] at batches
  refine ⟨batches.1, fun other on => ?_⟩
  have batches := batches.2 other on
  simp only [keys_grouped] at batches
  split
  · rename_i addressed
    obtain ⟨error, rfl⟩ := (if_pos addressed).mp batches
    exact ⟨error, rfl⟩
  · rename_i other
    exact (if_neg other).mp batches

end Batches

/-- Whether a batch surely ends with caching off for an entity: it has commands for it, and
no error. -/
def Settles (r : Repository β σ) (key : EntityKey) : Request × Reply σ → Prop
  | (.dispatchBatch commands, .batched (.ok _)) => ∃ command ∈ commands, r.keyOf? command = some key
  | (.dispatchBatchTo actor commands, .batched (.ok _)) =>
      r.cache.normalize actor.key = key ∧ commands ≠ []
  | _ => False

/-- Whether a batch may end with caching on for an entity. -/
def Strands (r : Repository β σ) (key : EntityKey) : Request × Reply σ → Prop
  | (.dispatchBatch commands, .batched (.error _)) => ∃ command ∈ commands, r.keyOf? command = some key
  | (.dispatchBatchTo actor commands, .batched reply) =>
      r.cache.normalize actor.key = key ∧ (commands = [] ∨ ∃ error, reply = .error error)
  | _ => False

/-- A batch of the run may have left caching on for an entity, and none has settled it since. -/
def Stranded (r : Repository β σ) (key : EntityKey) (log : List (Request × Reply σ)) : Prop :=
  ∃ earlier entry later, log = earlier ++ entry :: later ∧ r.Strands key entry ∧
    ∀ other ∈ later, ¬ r.Settles key other

/-- Whether what is recorded of an entity is its latest snapshot. -/
def Durable (r : Repository β σ) (view : r.storage.View) (key : EntityKey)
    (s : RepositoryState β σ) : Prop :=
  view.record s.cached.backing key = some ((r.inventory view s.cached).latest r.model key)

variable {w : World (RepositoryState β σ)} {key : EntityKey} {log : List (Request × Reply σ)}
  {requests : List Request}

theorem serve_caching (proper : r.Proper w.outside.cached) (request : Request) :
    let (reply, after) := r.serve request w
    r.Proper after.outside.cached ∧
      ∀ key, (r.inventory view after.outside.cached).isCaching key = true →
        r.Strands key (request, reply) ∨
          ((r.inventory view w.outside.cached).isCaching key = true ∧ ¬ r.Settles key (request, reply)) := by
  cases batch : request.isBatch with
  | false =>
      have single := serve_cases view proper batch
      rcases served : r.serve request w with ⟨reply, after⟩
      rw [served] at single
      refine ⟨single.1, fun key on => .inr ⟨(single.2.1 key).symm.trans on, ?_⟩⟩
      cases request with
      | dispatchBatch | dispatchBatchTo => cases batch
      | _ => exact id
  | true =>
      cases request with
      | dispatchBatch commands =>
          have batches := dispatchBatch_caching view proper commands
          simp only [serve, Computation.bind_apply, Computation.pure_apply]
          rcases done : r.dispatchBatch commands w with ⟨outcomes, after⟩
          rw [done] at batches
          refine ⟨batches.1, fun key on => ?_⟩
          have batches := batches.2 key on
          by_cases addressed : ∃ command ∈ commands, r.keyOf? command = some key
          · rw [if_pos addressed] at batches
            obtain ⟨error, rfl⟩ := batches
            exact .inl addressed
          · rw [if_neg addressed] at batches
            refine .inr ⟨batches, ?_⟩
            cases outcomes with
            | ok => exact addressed
            | error => exact id
      | dispatchBatchTo actor commands =>
          have batch := dispatchBatchTo_caching view proper actor commands
          simp only [serve, Computation.bind_apply, Computation.pure_apply]
          rcases done : r.dispatchBatchTo actor commands w with ⟨replies, after⟩
          rw [done] at batch
          refine ⟨batch.1, fun key on => ?_⟩
          have batch := batch.2 key on
          by_cases here : key = r.cache.normalize actor.key
          · rw [if_pos here] at batch
            exact .inl ⟨here.symm, batch⟩
          · rw [if_neg here] at batch
            refine .inr ⟨batch, ?_⟩
            cases replies with
            | ok => exact fun settles => here settles.1.symm
            | error => exact id
      | _ => cases batch

/-- Caching is on only for entities that a batch has stranded. -/
theorem serveAll_stranded (uncached : w.outside.Uncached) (requests : List Request) :
    let run := r.serveAll requests w
    r.Proper run.2.outside.cached ∧
      ∀ key, (r.inventory view run.2.outside.cached).isCaching key = true → r.Stranded key run.1 := by
  have start : r.Proper w.outside.cached ∧
      ∀ key, (r.inventory view w.outside.cached).isCaching key = true → r.Stranded key [] :=
    ⟨proper_of_uncached uncached, fun key on => by simp [isCaching_of_uncached view uncached] at on⟩
  refine serveAll_induction [] (P := fun log w => r.Proper w.outside.cached ∧
    ∀ key, (r.inventory view w.outside.cached).isCaching key = true → r.Stranded key log) ?_ start
  rintro log w request - ⟨proper, stranded⟩
  have step := serve_caching view proper request
  rcases served : r.serve request w with ⟨reply, after⟩
  rw [served] at step
  refine ⟨step.1, fun key on => ?_⟩
  obtain strands | ⟨on, unsettled⟩ := step.2 key on
  · exact ⟨log, _, [], rfl, strands, by simp⟩
  · obtain ⟨earlier, entry, later, rfl, strands, none⟩ := stranded key on
    refine ⟨earlier, entry, later ++ [(request, reply)], by simp, strands, ?_⟩
    intro other member
    rcases List.mem_append.mp member with member | last
    · exact none other member
    · rw [List.mem_singleton.mp last]
      exact unsettled

/-- What is recorded is all that a repository on the same storage needs to go on. -/
theorem Durable.reopened {s : RepositoryState β σ} {tenant : Option TenantId} {id : String}
    (durable : r.Durable view (r.keyFor tenant id) s) (late : Nat → Bool) (supply : Supply)
    {found : Snapshot σ}
    (captured : ({ r with late }.snapshot tenant id ⟨supply, .cold s.cached.backing⟩).1 = .ok found) :
    found = (r.inventory view s.cached).latest r.model (r.keyFor tenant id) := by
  have cold : (⟨supply, .cold s.cached.backing⟩ : World (RepositoryState β σ)).outside.Uncached :=
    RepositoryState.cold_uncached _
  have is := snapshot_latest (r := { r with late }) view (proper_of_uncached cold) captured
  refine is.trans ((Inventory.latest_of_uncached (isCaching_of_uncached view cold _)).trans ?_)
  exact (congrArg (Option.getD · _) durable).trans rfl

theorem keep_durable {before after : RepositoryState β σ} {next : Snapshot σ}
    (kept : r.inventory view after.cached = (r.inventory view before.cached).keep key next) :
    r.Durable view key after ↔ (r.inventory view before.cached).isCaching key = false ∨
      view.record before.cached.backing key = some ((r.inventory view after.cached).latest r.model key) := by
  have latest := congrArg (·.latest r.model key) kept
  have records := congrArg (·.records key) kept
  simp only [Inventory.latest_keep, if_true] at latest
  rw [Durable, latest]
  change view.record after.cached.backing key = _ at records
  rw [records, Inventory.keep]
  cases on : (r.inventory view before.cached).isCaching key with
  | true => simp [Inventory.hold, inventory]
  | false => simp [Inventory.record]

/-- A success is recorded exactly if caching is off for its entity, or the record showed it
already. Caching is on only where a batch has stranded the entity. Another repository on the
same storage sees what is recorded. -/
theorem success_durable (r : Repository β σ) (view : r.storage.View) (w : World (RepositoryState β σ))
    (requests : List Request) (uncached : w.outside.Uncached) (command : Signal) (id : String)
    (target : command.target = some id) {events : List Signal} :
    let key := r.keyFor command.tenant id
    let run := r.serveAll requests w
    let before := run.2.outside.cached
    let done := r.dispatch command run.2
    let latest := (r.inventory view done.2.outside.cached).latest r.model key
    done.1 = .ok (.success events) →
      (r.Durable view key done.2.outside ↔
        (r.inventory view before).isCaching key = false ∨ view.record before.backing key = some latest) ∧
      ((r.inventory view before).isCaching key = true → r.Stranded key run.1) ∧
      (∀ s, (r.snapshot command.tenant id done.2).1 = .ok s → s = latest) ∧
      (r.Durable view key done.2.outside → ∀ (late : Nat → Bool) (supply : Supply) (found : Snapshot σ),
        let reopened := RepositoryState.cold done.2.outside.cached.backing
        ({ r with late }.snapshot command.tenant id ⟨supply, reopened⟩).1 = .ok found → found = latest) := by
  intro key run before done latest success
  have target : r.keyOf? command = some key := by simp [keyOf?, target, key]
  have ran := serveAll_stranded view uncached requests
  have replied := dispatch_replied view (w := run.2) ran.1 target
  refine ⟨?_, ran.2 key, fun s => snapshot_latest view replied.1,
    fun durable late supply found => durable.reopened view late supply⟩
  obtain ⟨silent, -⟩ | ⟨_, next, -, -, -, kept⟩ := replied.2.cases
  · have silent : reported done.1 = none := silent
    simp [success, reported] at silent
  · exact keep_durable view kept

open Sample Branch in
/-- After a batch that succeeds, a success is recorded. -/
theorem success_durable_branch :
    let run := repository.serveAll [.dispatchBatch [opening "a"]] (start .none .none)
    let done := repository.dispatch (deposit "a") run.2
    (∃ events, done.1 = .ok (.success events)) ∧
      repository.Durable Branch.view (repository.keyFor (deposit "a").tenant "a") done.2.outside := by
  obtain ⟨events, reports⟩ := Option.isSome_iff_exists.mp
    (show (reported (repository.dispatch (deposit "a")
      (repository.serveAll [.dispatchBatch [opening "a"]] (start .none .none)).2).1).isSome = true by
        decide +kernel)
  have durable := success_durable repository Branch.view (start .none .none) [.dispatchBatch [opening "a"]]
    (RepositoryState.cold_uncached _) (deposit "a") "a" rfl (reported_eq_some.mp reports)
  exact ⟨⟨events, reported_eq_some.mp reports⟩, durable.1.mpr (.inl (by decide +kernel))⟩

open Sample Branch in
/-- A batch that cannot read its entity leaves caching on for it, and the next success is not
recorded. -/
theorem success_lost :
    let run := repository.serveAll [.dispatchBatch [opening "a"]] (start (.after 0 1 diskError) .none)
    let done := repository.dispatch (opening "a") run.2
    (∃ events, done.1 = .ok (.success events)) ∧
      Branch.view.record done.2.outside.cached.backing (repository.keyFor none "a") = none ∧
      ¬ repository.Durable Branch.view (repository.keyFor none "a") done.2.outside := by
  intro run done
  obtain ⟨events, reports⟩ := Option.isSome_iff_exists.mp
    (show (reported done.1).isSome = true by decide +kernel)
  have unrecorded : Branch.view.record done.2.outside.cached.backing (repository.keyFor none "a") = none :=
    Option.isNone_iff_eq_none.mp (by decide +kernel)
  refine ⟨⟨events, reported_eq_some.mp reports⟩, unrecorded, fun durable => ?_⟩
  exact absurd (unrecorded.symm.trans durable) (Option.some_ne_none _).symm

end Switchboard.Repository
