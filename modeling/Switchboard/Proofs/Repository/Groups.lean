import Switchboard.Proofs.Repository.Caching
import Switchboard.Proofs.Repository.Requests
import Switchboard.Proofs.Repository.Sequential

namespace Switchboard.Repository

/-! The groups of a batch, delivered to one entity after another. -/

variable {β σ : Type} {r : Repository β σ} (view : r.storage.View) {key : EntityKey}
  {outcome : Nat → Outcome} {start : Supply} {s : Snapshot σ}
  {replies : Except DispatchError (List Outcome)}

/-- An entity has been loaded once, brought to a snapshot, and stored once. -/
structure Settled (r : Repository β σ) (view : r.storage.View) (start : Supply) (key : EntityKey)
    (s : Snapshot σ) (before after : World (Cached β (Root σ))) : Prop where
  proper : r.Proper after.outside
  later : start.Later after.supply
  settled : r.inventory view after.outside = (r.inventory view before.outside).settle key s
  backing : after.outside.backing =
    (r.storage.store key s (r.storage.load key before.outside.backing).2).2

theorem worker_batch_settled {w : World (Cached β (Root σ))} (reliable : r.storage.Reliable)
    (proper : r.Proper w.outside) (later : start.Later w.supply) {place : EntityKey}
    (normal : r.cache.normalize key = place)
    (off : (r.inventory view w.outside).isCaching place = false) {commands : List Signal}
    (some : commands ≠ [])
    (answered : (r.model.answerEach place ((r.inventory view w.outside).latest r.model place)
      commands w.supply).1 = (replies, s))
    (present : replies ≠ .error .actorGone) :
    (r.worker.dispatchBatch key commands w).1 = replies ∧
      r.Settled view start place s w (r.worker.dispatchBatch key commands w).2 := by
  subst normal
  cases commands with
  | nil => exact absurd rfl some
  | cons command rest =>
      have batch := dispatchBatch_cons view proper key command rest
      rcases done : r.worker.dispatchBatch key (command :: rest) w with ⟨given, after⟩
      rw [done] at batch
      obtain ⟨proper, ⟨_, -, gone, -⟩ | ⟨last, same, backing, settled⟩⟩ := batch
      · rw [answered] at gone
        exact absurd (gone reliable) present
      · have ticked := answerEach_later r.model (r.cache.normalize key)
          ((r.inventory view w.outside).latest r.model (r.cache.normalize key)) (command :: rest) later
        rw [same] at answered ticked
        cases answered
        exact ⟨rfl, proper, ticked, settled, backing off⟩

variable {w : World (RepositoryState β σ)}

theorem batchTo_settled (actor : ActorRef) (reliable : r.storage.Reliable)
    (proper : r.Proper w.outside.cached) (later : start.Later w.supply)
    (prompt : r.late w.outside.sent = false) (alive : w.outside.actors.isAlive actor = true)
    {place : EntityKey} (normal : r.cache.normalize actor.key = place)
    (off : (r.inventory view w.outside.cached).isCaching place = false) {commands : List Signal}
    (some : commands ≠ [])
    (answered : (r.model.answerEach place ((r.inventory view w.outside.cached).latest r.model place)
      commands w.supply).1 = (replies, s))
    (present : replies ≠ .error .actorGone) :
    (r.dispatchBatchTo actor commands w).1 = replies ∧
      r.Settled view start place s (inside w) (inside (r.dispatchBatchTo actor commands w).2) ∧
      (r.dispatchBatchTo actor commands w).2.outside.sent = w.outside.sent + 1 := by
  obtain ⟨given, settled⟩ := worker_batch_settled view (w := inside w) reliable proper later normal off some
    answered present
  rw [dispatchBatchTo, send_alive prompt alive]
  exact ⟨given, settled, rfl⟩

/-- All groups of a batch have been delivered: every command has been answered as a run of
single commands answers it, up to likeness, and every entity is where that run leaves it. -/
structure Delivered (r : Repository β σ) (view : r.storage.View) (start : Supply)
    (outcome : Nat → Outcome) (last : EntityKey → Snapshot σ)
    (groups : List (EntityKey × List (Nat × Signal))) (results : List (Nat × Outcome))
    (before after : World (RepositoryState β σ)) : Prop where
  uncached : ∀ key, (r.inventory view after.outside.cached).isCaching key = false
  settled : ∀ key ∈ groups.map Prod.fst,
    (last key).Like start ((r.inventory view after.outside.cached).latest r.model key)
  untouched : ∀ key ∉ groups.map Prod.fst, (r.inventory view after.outside.cached).latest r.model key =
    (r.inventory view before.outside.cached).latest r.model key
  like : ∀ result ∈ results, (outcome result.1).Like result.2
  complete : ∀ group ∈ groups, ∀ command ∈ group.2, command.1 ∈ results.map Prod.fst
  calls : ∀ log : r.storage.Log, log.calls after.outside.cached.backing =
    log.calls before.outside.cached.backing ++
      (groups.map Prod.fst).flatMap fun key => [.load key, .store key]

theorem told_fst (outcome : Nat → Outcome) (placed : List (Nat × Signal)) :
    (told outcome placed).map Prod.fst = placed.map Prod.snd := by
  simp [told]

theorem told_snd (outcome : Nat → Outcome) (placed : List (Nat × Signal)) :
    (told outcome placed).map Prod.snd = (placed.map Prod.fst).map outcome := by
  simp [told]

theorem zip_like {places : List Nat} {outcomes : List Outcome}
    (like : List.Forall₂ Outcome.Like (places.map outcome) outcomes) :
    (∀ result ∈ places.zip outcomes, (outcome result.1).Like result.2) ∧
      (places.zip outcomes).map Prod.fst = places := by
  rw [List.forall₂_map_left_iff] at like
  exact ⟨fun result member => List.forall₂_zip like member, List.map_fst_zip (Nat.le_of_eq like.length_eq)⟩

theorem group_settled (reliable : r.storage.Reliable) (proper : r.Proper w.outside.cached)
    (uncached : ∀ key, (r.inventory view w.outside.cached).isCaching key = false)
    (later : start.Later w.supply) (prompt : r.late w.outside.sent = false)
    (normal : r.cache.normalize key = key) {commands : List (Nat × Signal)} (some : commands ≠ [])
    {last : Snapshot σ} (answers : Answers r.model key start
      ((r.inventory view w.outside.cached).latest r.model key) (told outcome commands) last) :
    let asked := Act.outside (actor key) w
    ∃ outcomes middle s, r.dispatchBatchTo asked.1 (commands.map Prod.snd) asked.2 = (.ok outcomes, middle) ∧
      List.Forall₂ Outcome.Like ((commands.map Prod.fst).map outcome) outcomes ∧
      last.Like start s ∧ r.Settled view start key s (inside w) (inside middle) ∧
      middle.outside.sent = w.outside.sent + 1 := by
  intro asked
  have there : r.cache.normalize asked.1.key = key := by rw [actor_key, normal]
  obtain ⟨outcomes, s, answered, likes, like⟩ := answers.answerEach (.refl start _) later
  rw [told_fst] at answered
  rw [told_snd] at likes
  obtain ⟨given, settled, sent⟩ := batchTo_settled view asked.1 (w := asked.2)
    reliable proper later prompt (actor_isAlive w key) there (uncached key)
    (by simpa using some) answered (by simp)
  exact ⟨outcomes, _, s, Prod.ext given rfl, likes, like, settled, sent⟩

theorem Settled.latest {before after : World (Cached β (Root σ))}
    (settled : r.Settled view start key s before after) (other : EntityKey) :
    (r.inventory view after.outside).latest r.model other =
      if other = key then s else (r.inventory view before.outside).latest r.model other := by
  rw [settled.settled, Inventory.latest_settle]

theorem Settled.uncached {before after : World (Cached β (Root σ))}
    (settled : r.Settled view start key s before after)
    (uncached : ∀ key, (r.inventory view before.outside).isCaching key = false) (other : EntityKey) :
    (r.inventory view after.outside).isCaching other = false := by
  rw [settled.settled, Inventory.isCaching_settle, uncached other, Bool.and_false]

theorem Delivered.cons {middle after : World (RepositoryState β σ)} {last : EntityKey → Snapshot σ}
    {commands : List (Nat × Signal)} {outcomes : List Outcome}
    {rest : List (EntityKey × List (Nat × Signal))} {results : List (Nat × Outcome)}
    (absent : key ∉ rest.map Prod.fst) (settled : r.Settled view start key s (inside w) (inside middle))
    (likes : List.Forall₂ Outcome.Like ((commands.map Prod.fst).map outcome) outcomes)
    (like : (last key).Like start s)
    (delivered : r.Delivered view start outcome last rest results middle after) :
    r.Delivered view start outcome last ((key, commands) :: rest)
      ((commands.map Prod.fst).zip outcomes ++ results) w after := by
  obtain ⟨alike, places⟩ := zip_like likes
  have latest : ∀ other, (r.inventory view middle.outside.cached).latest r.model other =
      if other = key then s else (r.inventory view w.outside.cached).latest r.model other :=
    settled.latest view
  refine ⟨delivered.uncached, ?_, ?_, ?_, ?_, ?_⟩
  · refine List.forall_mem_cons.mpr ⟨?_, delivered.settled⟩
    rw [delivered.untouched key absent, latest, if_pos rfl]
    exact like
  · intro other outside
    obtain ⟨different, outside⟩ := not_or.mp (mt List.mem_cons.mpr outside)
    rw [delivered.untouched other outside, latest, if_neg different]
  · intro result member
    exact (List.mem_append.mp member).elim (alike result) (delivered.like result)
  · refine List.forall_mem_cons.mpr ⟨fun command own => ?_, fun group member command own => ?_⟩
    · rw [List.map_append, places]
      exact List.mem_append_left _ (List.mem_map_of_mem own)
    · rw [List.map_append]
      exact List.mem_append_right _ (delivered.complete group member command own)
  · intro log
    have backing : middle.outside.cached.backing =
      (r.storage.store key s (r.storage.load key w.outside.cached.backing).2).2 := settled.backing
    rw [delivered.calls log, backing, log.store, log.load]
    simp

/-- None of the next so many messages comes too late. -/
def Prompt (r : Repository β σ) (count : Nat) (w : World (RepositoryState β σ)) : Prop :=
  ∀ n < count, r.late (w.outside.sent + n) = false

theorem prompt_succ {count : Nat} {middle : World (RepositoryState β σ)}
    (sent : middle.outside.sent = w.outside.sent + 1) :
    r.Prompt (count + 1) w ↔ r.late w.outside.sent = false ∧ r.Prompt count middle := by
  simp only [Prompt, sent, Nat.forall_lt_succ_left, Nat.add_zero, Nat.add_assoc, Nat.add_comm 1]

/-- A group whose actor has ended since it was looked up. -/
theorem dispatchGroups_late (late : r.late w.outside.sent = true) (group : EntityKey × List (Nat × Signal))
    (rest : List (EntityKey × List (Nat × Signal))) :
    ∃ after, r.dispatchGroups (group :: rest) w = (.error .actorGone, after) ∧
      after.outside.cached = w.outside.cached := by
  have missed : r.late (Act.outside (actor group.1) w).2.outside.sent = true := late
  simp only [dispatchGroups, dispatchBatchTo, Computation.bind_apply]
  rw [send_late missed]
  exact ⟨_, rfl, rfl⟩

theorem dispatchGroups_cons {commands : List (Nat × Signal)} {outcomes : List Outcome}
    {rest : List (EntityKey × List (Nat × Signal))} {reply : Except DispatchError (List (Nat × Outcome))}
    {middle after : World (RepositoryState β σ)}
    (done : let asked := Act.outside (actor key) w
      r.dispatchBatchTo asked.1 (commands.map Prod.snd) asked.2 = (.ok outcomes, middle))
    (ran : r.dispatchGroups rest middle = (reply, after)) :
    r.dispatchGroups ((key, commands) :: rest) w =
      (reply.map ((commands.map Prod.fst).zip outcomes ++ ·), after) := by
  simp only [dispatchGroups, Computation.bind_apply, done, ran, Computation.pure_apply]

/-- Either all messages are prompt and all groups delivered, or there is an error: what comes too
late for an actor is not sent again. -/
theorem dispatchGroups_delivered (reliable : r.storage.Reliable)
    {groups : List (EntityKey × List (Nat × Signal))} (last : EntityKey → Snapshot σ)
    (formed : ∀ group ∈ groups, r.cache.normalize group.1 = group.1 ∧ group.2 ≠ [])
    (distinct : (groups.map Prod.fst).Nodup) (proper : r.Proper w.outside.cached)
    (uncached : ∀ key, (r.inventory view w.outside.cached).isCaching key = false)
    (later : start.Later w.supply)
    (answers : ∀ group ∈ groups, Answers r.model group.1 start
      ((r.inventory view w.outside.cached).latest r.model group.1) (told outcome group.2) (last group.1)) :
    (r.Prompt groups.length w ∧ ∃ results after, r.dispatchGroups groups w = (.ok results, after) ∧
      r.Delivered view start outcome last groups results w after) ∨
    (¬ r.Prompt groups.length w ∧ ∃ after, r.dispatchGroups groups w = (.error .actorGone, after) ∧
      ∀ key, (r.inventory view after.outside.cached).isCaching key = false) := by
  induction groups generalizing w with
  | nil =>
      refine .inl ⟨nofun, [], w, rfl, uncached, ?_, ?_, ?_, ?_, ?_⟩ <;> simp
  | cons group rest ih =>
      obtain ⟨key, commands⟩ := group
      by_cases late : r.late w.outside.sent = true
      · obtain ⟨after, ran, same⟩ := dispatchGroups_late late (key, commands) rest
        refine .inr ⟨fun prompt => ?_, after, ran, same ▸ uncached⟩
        exact Bool.false_ne_true ((prompt 0 (Nat.zero_lt_succ _)).symm.trans late)
      obtain ⟨⟨normal, some⟩, formed⟩ := List.forall_mem_cons.mp formed
      obtain ⟨first, answers⟩ := List.forall_mem_cons.mp answers
      obtain ⟨absent, distinct⟩ := List.nodup_cons.mp distinct
      have prompt := Bool.eq_false_iff.mpr late
      obtain ⟨outcomes, middle, s, done, likes, like, settled, sent⟩ :=
        group_settled view reliable proper uncached later prompt normal some first
      have answers : ∀ group ∈ rest, Answers r.model group.1 start
          ((r.inventory view middle.outside.cached).latest r.model group.1) (told outcome group.2)
          (last group.1) := by
        intro group member
        have elsewhere : group.1 ≠ key := by
          rintro rfl
          exact absent (List.mem_map.mpr ⟨group, member, rfl⟩)
        have untouched := settled.latest view group.1
        rw [if_neg elsewhere] at untouched
        exact untouched ▸ answers group member
      -- the other groups are sent from where the first one has left everything, one message later
      rw [List.length_cons, prompt_succ sent]
      obtain ⟨others, results, after, ran, delivered⟩ | ⟨others, after, ran, off⟩ :=
        ih formed distinct settled.proper (settled.uncached view uncached) settled.later answers
      · exact .inl ⟨⟨prompt, others⟩, _, after, dispatchGroups_cons done ran,
          delivered.cons view absent settled likes like⟩
      · exact .inr ⟨fun both => others both.2, after, dispatchGroups_cons done ran, off⟩

end Switchboard.Repository
