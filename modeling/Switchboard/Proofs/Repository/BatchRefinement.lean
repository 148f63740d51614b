import Switchboard.Proofs.Repository.Groups
import Switchboard.Proofs.Sample.Branch

namespace Switchboard.Repository

/-! A batch comes to the same as its commands one after another. -/

variable {β σ : Type} {r : Repository β σ} (view : r.storage.View) {key : EntityKey}
  {outcome : Nat → Outcome} {start : Supply} {s : Snapshot σ} {w : World (RepositoryState β σ)}
  {signals : List Signal}

section Gathering

variable {results : List (Nat × Outcome)} {places : List Nat}

theorem lookup_like (like : ∀ result ∈ results, (outcome result.1).Like result.2) {place : Nat}
    (present : place ∈ results.map Prod.fst) :
    ∃ given, results.lookup place = some given ∧ (outcome place).Like given := by
  cases found : results.lookup place with
  | none =>
      obtain ⟨result, member, rfl⟩ := List.mem_map.mp present
      simpa using List.lookup_eq_none_iff.mp found result member
  | some given =>
      obtain ⟨before, after, split, -⟩ := List.lookup_eq_some_iff.mp found
      exact ⟨given, rfl, like (place, given) (by simp [split])⟩

theorem filterMap_like {f : Nat → Option Outcome}
    (found : ∀ place ∈ places, ∃ given, f place = some given ∧ (outcome place).Like given) :
    List.Forall₂ Outcome.Like (places.map outcome) (places.filterMap f) := by
  induction places with
  | nil => exact .nil
  | cons place rest ih =>
      obtain ⟨⟨given, here, like⟩, others⟩ := List.forall_mem_cons.mp found
      rw [List.filterMap_cons_some here]
      exact .cons like (ih others)

end Gathering

/-- The entities that a batch has commands for. -/
def addressed (r : Repository β σ) (signals : List Signal) : List EntityKey :=
  (r.grouped (signals.zipIdx.map Prod.swap)).keys

theorem mem_addressed : key ∈ r.addressed signals ↔ ∃ signal ∈ signals, r.keyOf? signal = some key :=
  keys_grouped

theorem own_of_unaddressed (absent : key ∉ r.addressed signals) :
    r.own key (signals.zipIdx.map Prod.swap) = [] := by
  by_contra some
  exact absent (List.mem_map.mpr ⟨_, mem_grouped.mpr ⟨rfl, some⟩, rfl⟩)

/-- What a call for a snapshot gives, unless it finds that the actor has ended. -/
def Captures (r : Repository β σ) (tenant : Option TenantId) (id : String)
    (w : World (RepositoryState β σ)) (s : Snapshot σ) : Prop :=
  (r.snapshot tenant id w).1 = if r.late w.outside.sent then .error .actorGone else .ok s

/-- Entities that a snapshot does not tell apart but for the times of changes after a start. -/
def SameEntities (r : Repository β σ) (start : Supply) (first second : World (RepositoryState β σ)) : Prop :=
  ∀ tenant id, ∃ s t : Snapshot σ, s.Like start t ∧ r.Captures tenant id first s ∧
    r.Captures tenant id second t

/-- Between two states of the backing each of these entities has been loaded once and stored once. -/
def TouchedOnce (r : Repository β σ) (signals : List Signal) (before after : β) : Prop :=
  ∃ keys : List EntityKey, keys.Nodup ∧
    (∀ key, key ∈ keys ↔ ∃ signal ∈ signals, r.keyOf? signal = some key) ∧
    ∀ log : r.storage.Log, log.calls after =
      log.calls before ++ keys.flatMap fun key => [.load key, .store key]

theorem captures_latest (reliable : r.storage.Reliable) (proper : r.Proper w.outside.cached)
    (tenant : Option TenantId) (id : String) :
    r.Captures tenant id w ((r.inventory view w.outside.cached).latest r.model (r.keyFor tenant id)) := by
  have working := worker_snapshot view (w := inside w) proper (r.keyFor tenant id)
  rw [keyFor_normal] at working
  rw [Captures]
  simp only [snapshot, Computation.bind_apply, actor_key]
  generalize r.keyFor tenant id = key at working ⊢
  cases late : r.late w.outside.sent with
  | true =>
      rw [send_late (w := (Act.outside (actor key) w).2) late]
      rfl
  | false =>
      rw [send_alive (w := (Act.outside (actor key) w).2) late (actor_isAlive w key)]
      rw [inside_actor]
      rcases worked : r.worker.snapshot key (inside w) with ⟨reply, after⟩
      rw [worked] at working
      obtain ⟨-, ⟨_, -, unreliable, -⟩ | ⟨rfl, -⟩⟩ := working
      · exact absurd reliable unreliable
      · rfl

theorem length_mapM {ω α γ : Type} (f : α → StateM ω γ) (items : List α) (s : ω) :
    (items.mapM f s).1.length = items.length := by
  induction items generalizing s with
  | nil => rfl
  | cons item rest ih =>
      simp only [List.mapM_cons, Computation.bind_apply, Computation.pure_apply, List.length_cons]
      exact congrArg (· + 1) (ih _)

def outcomeAt (outcomes : List Outcome) (place : Nat) : Outcome := outcomes.getD place (.success [])

theorem map_outcomeAt {outcomes : List Outcome} :
    (List.range outcomes.length).map (outcomeAt outcomes) = outcomes := by
  refine List.ext_getElem (by simp) fun place first second => ?_
  simp [outcomeAt, second]

theorem placed_fst : (signals.zipIdx.map Prod.swap).map Prod.fst = List.range signals.length := by
  rw [List.map_map, List.range_eq_range']
  exact List.zipIdx_map_snd 0 signals

theorem placed_snd : (signals.zipIdx.map Prod.swap).map Prod.snd = signals := by
  rw [List.map_map]
  exact List.zipIdx_map_fst 0 signals

/-- The outcomes of signals without a target, with their places. -/
def homeless (r : Repository β σ) (signals : List Signal) : List (Nat × Outcome) :=
  (signals.zipIdx.map Prod.swap).filterMap fun (place, command) =>
    match r.keyOf? command with
    | none => some (place, missingTarget command)
    | some _ => none

theorem mem_homeless {result : Nat × Outcome} : result ∈ r.homeless signals ↔
    ∃ command, (result.1, command) ∈ signals.zipIdx.map Prod.swap ∧ r.keyOf? command = none ∧
      result.2 = missingTarget command := by
  obtain ⟨place, outcome⟩ := result
  rw [homeless, List.mem_filterMap]
  constructor
  · rintro ⟨⟨other, command⟩, member, found⟩
    cases target : r.keyOf? command with
    | none =>
        simp only [target, Option.some.injEq, Prod.mk.injEq] at found
        obtain ⟨rfl, rfl⟩ := found
        exact ⟨command, member, target, rfl⟩
    | some key => simp [target] at found
  · rintro ⟨command, member, target, rfl⟩
    exact ⟨(place, command), member, by simp [target]⟩

theorem dispatchBatch_apply {reply : Except DispatchError (List (Nat × Outcome))}
    {after : World (RepositoryState β σ)}
    (ran : r.dispatchGroups (r.grouped (signals.zipIdx.map Prod.swap)).entries w = (reply, after)) :
    r.dispatchBatch signals w = (reply.map fun results => (List.range signals.length).filterMap fun place =>
      (r.homeless signals ++ results).lookup place, after) := by
  simp only [dispatchBatch, Computation.bind_apply, Computation.pure_apply, ran]
  rfl

/-- The results of all groups and of the signals without a target cover all places. -/
theorem gathered_like {last : EntityKey → Snapshot σ} {results : List (Nat × Outcome)}
    {after : World (RepositoryState β σ)}
    (missing : ∀ command ∈ signals.zipIdx.map Prod.swap, r.keyOf? command.2 = none →
      outcome command.1 = missingTarget command.2)
    (delivered : r.Delivered view start outcome last
      (r.grouped (signals.zipIdx.map Prod.swap)).entries results w after) :
    List.Forall₂ Outcome.Like ((List.range signals.length).map outcome)
      ((List.range signals.length).filterMap fun place => (r.homeless signals ++ results).lookup place) := by
  refine filterMap_like fun place within => lookup_like (fun result member => ?_) ?_
  · rcases List.mem_append.mp member with member | member
    · obtain ⟨command, placed, target, same⟩ := mem_homeless.mp member
      rw [same, missing (result.1, command) placed target]
      exact .refl _
    · exact delivered.like result member
  · rw [← placed_fst] at within
    obtain ⟨⟨place, command⟩, placed, rfl⟩ := List.mem_map.mp within
    rw [List.map_append]
    cases target : r.keyOf? command with
    | none =>
        refine List.mem_append_left _ (List.mem_map.mpr ⟨(place, missingTarget command), ?_, rfl⟩)
        exact mem_homeless.mpr ⟨command, placed, target, rfl⟩
    | some key =>
        have own : (place, command) ∈ r.own key (signals.zipIdx.map Prod.swap) :=
          List.mem_filter.mpr ⟨placed, by simpa using target⟩
        exact List.mem_append_right _
          (delivered.complete _ (mem_grouped.mpr ⟨rfl, List.ne_nil_of_mem own⟩) _ own)

theorem sequence_placed {outcomes : List Outcome} {sequential : World (RepositoryState β σ)}
    (ran : signals.mapM r.dispatch w = (outcomes.map .ok, sequential)) :
    outcomes.length = signals.length ∧
      ((signals.zipIdx.map Prod.swap).map Prod.snd).mapM r.dispatch w =
        ((signals.zipIdx.map Prod.swap).map fun command => .ok (outcomeAt outcomes command.1), sequential) := by
  have length : outcomes.length = signals.length := by
    have same := length_mapM r.dispatch signals w
    rwa [ran, List.length_map] at same
  refine ⟨length, ?_⟩
  have told : ((signals.zipIdx.map Prod.swap).map Prod.fst).map (outcomeAt outcomes) = outcomes := by
    rw [placed_fst, ← length, map_outcomeAt]
  have same : (signals.zipIdx.map Prod.swap).map (fun command => .ok (outcomeAt outcomes command.1)) =
      outcomes.map (.ok : Outcome → Except DispatchError Outcome) := by
    conv_rhs => rw [← told]
    simp only [List.map_map]
    rfl
  rw [placed_snd, ran, same]

theorem delivered_of_sequence {outcomes : List Outcome} {results : List (Nat × Outcome)}
    {sequential batched : World (RepositoryState β σ)} (reliable : r.storage.Reliable)
    (uncached : w.outside.Uncached) (ran : signals.mapM r.dispatch w = (outcomes.map .ok, sequential))
    (delivered : r.Delivered view w.supply (outcomeAt outcomes)
      ((r.inventory view sequential.outside.cached).latest r.model)
      (r.grouped (signals.zipIdx.map Prod.swap)).entries results w batched) :
    List.Forall₂ Outcome.Like outcomes ((List.range signals.length).filterMap fun place =>
        (r.homeless signals ++ results).lookup place) ∧
      r.SameEntities w.supply sequential batched ∧
      r.TouchedOnce signals w.outside.cached.backing batched.outside.cached.backing := by
  obtain ⟨length, placed⟩ := sequence_placed ran
  obtain ⟨proper, -, -, answers, missing⟩ := dispatchAll_answers view reliable
    (proper_of_uncached uncached) (.refl w.supply) placed
  have idle := uncached_of_isCaching view delivered.uncached
  refine ⟨?_, fun tenant id => ?_, r.addressed signals, (r.grouped _).distinct, fun key => mem_addressed,
    delivered.calls⟩
  · have like := gathered_like view missing delivered
    rwa [← length, map_outcomeAt, length] at like
  · refine ⟨_, _, ?_, captures_latest view reliable proper tenant id,
      captures_latest view reliable (proper_of_uncached idle) tenant id⟩
    by_cases touched : r.keyFor tenant id ∈ r.addressed signals
    · exact delivered.settled _ touched
    · have none := answers (r.keyFor tenant id)
      rw [own_of_unaddressed touched] at none
      rw [delivered.untouched _ touched, none.eq_of_nil]
      exact .refl _ _

theorem batch_of_sequence (view : r.storage.View) (reliable : r.storage.Reliable)
    (uncached : w.outside.Uncached) {outcomes : List Outcome} {sequential : World (RepositoryState β σ)}
    (sequence : signals.mapM r.dispatch w = (outcomes.map .ok, sequential)) :
    ∃ reply batched, r.dispatchBatch signals w = (reply, batched) ∧ batched.outside.Uncached ∧
      (r.Prompt (r.addressed signals).length w → ∃ given, reply = .ok given ∧
        List.Forall₂ Outcome.Like outcomes given ∧ r.SameEntities w.supply sequential batched ∧
        r.TouchedOnce signals w.outside.cached.backing batched.outside.cached.backing) ∧
      (¬ r.Prompt (r.addressed signals).length w → reply = .error .actorGone) := by
  obtain ⟨-, placed⟩ := sequence_placed sequence
  obtain ⟨-, -, -, answers, -⟩ := dispatchAll_answers view reliable
    (proper_of_uncached uncached) (.refl w.supply) placed
  rw [addressed, Table.keys, List.length_map]
  obtain ⟨prompt, results, batched, ran, delivered⟩ | ⟨late, batched, ran, off⟩ :=
    dispatchGroups_delivered view reliable
      ((r.inventory view sequential.outside.cached).latest r.model)
      (grouped_formed r (signals.zipIdx.map Prod.swap)) (r.grouped _).distinct
      (proper_of_uncached uncached) (isCaching_of_uncached view uncached) (.refl w.supply)
      (fun group member => by
        obtain ⟨same, -⟩ := mem_grouped.mp member
        rw [same]
        exact answers group.1)
  · exact ⟨_, batched, dispatchBatch_apply ran, uncached_of_isCaching view delivered.uncached,
      fun _ => ⟨_, rfl, delivered_of_sequence view reliable uncached sequence delivered⟩,
      fun late => absurd prompt late⟩
  · exact ⟨_, batched, dispatchBatch_apply ran, uncached_of_isCaching view off,
      fun prompt => absurd prompt late, fun _ => rfl⟩

section Handle

variable {actor : ActorRef} {command : Signal}

/-- An actor that has answered was there, and its message came in time. -/
theorem reached (answered : (r.dispatchTo actor command w).1 ≠ .error .actorGone) :
    r.late w.outside.sent = false ∧ w.outside.actors.isAlive actor = true := by
  rw [dispatchTo] at answered
  cases late : r.late w.outside.sent with
  | true =>
      rw [send_late late] at answered
      exact absurd rfl answered
  | false =>
      cases alive : w.outside.actors.isAlive actor with
      | false =>
          rw [send_ended late alive] at answered
          exact absurd rfl answered
      | true => exact ⟨rfl, rfl⟩

theorem dispatchTo_worked (answered : (r.dispatchTo actor command w).1 ≠ .error .actorGone) :
    r.worker.dispatch actor.key command (inside w) =
      ((r.dispatchTo actor command w).1, inside (r.dispatchTo actor command w).2) := by
  have sending := send_cases r actor (r.worker.dispatch actor.key command) w
  rw [dispatchTo] at answered ⊢
  rcases sent : r.send actor (r.worker.dispatch actor.key command) w with ⟨reply, after⟩
  rw [sent] at sending answered
  exact sending.resolve_left fun missed => answered missed.1

theorem dispatchToAll_cons {rest : List Signal} {outcomes : List Outcome}
    {after : World (RepositoryState β σ)}
    (ran : (command :: rest).mapM (r.dispatchTo actor) w = (outcomes.map .ok, after)) :
    ∃ outcome others middle, outcomes = outcome :: others ∧
      r.dispatchTo actor command w = (.ok outcome, middle) ∧
      rest.mapM (r.dispatchTo actor) middle = (others.map .ok, after) := by
  simp only [List.mapM_cons, Computation.bind_apply, Computation.pure_apply] at ran
  rcases once : r.dispatchTo actor command w with ⟨reply, middle⟩
  rcases later : rest.mapM (r.dispatchTo actor) middle with ⟨replies, ended⟩
  rw [once, later] at ran
  cases outcomes with
  | nil => cases congrArg Prod.fst ran
  | cons outcome others =>
      cases ran
      exact ⟨outcome, others, middle, rfl, rfl, later⟩

theorem dispatchToAll_answers (reliable : r.storage.Reliable) (proper : r.Proper w.outside.cached)
    (later : start.Later w.supply) {commands : List Signal} {outcomes : List Outcome}
    {after : World (RepositoryState β σ)}
    (ran : commands.mapM (r.dispatchTo actor) w = (outcomes.map .ok, after)) :
    let place := r.cache.normalize actor.key
    r.Proper after.outside.cached ∧ start.Later after.supply ∧
      ∃ told, told.map Prod.fst = commands ∧
        Answers r.model place start ((r.inventory view w.outside.cached).latest r.model place) told
          ((r.inventory view after.outside.cached).latest r.model place) := by
  intro place
  induction commands generalizing w outcomes with
  | nil =>
      cases (congrArg Prod.snd ran : w = after)
      exact ⟨proper, later, [], rfl, .nil _⟩
  | cons command rest ih =>
      obtain ⟨outcome, others, middle, rfl, once, ran⟩ := dispatchToAll_cons ran
      have present : (r.dispatchTo actor command w).1 ≠ .error .actorGone := by simp [once]
      have worked := dispatchTo_worked present
      rw [once] at worked
      obtain ⟨proper, later, -, u, next, between, answer, latest⟩ :=
        worker_answered view reliable proper later worked
      obtain ⟨proper, later, told, rfl, answers⟩ := ih proper later ran
      have same : (r.inventory view middle.outside.cached).latest r.model place = next :=
        (latest place).trans (if_pos rfl)
      rw [same] at answers
      exact ⟨proper, later, (command, outcome) :: told, rfl, .cons between answer answers⟩

theorem reached_first {commands : List Signal} {outcomes : List Outcome}
    {middle : World (RepositoryState β σ)}
    (ran : commands.mapM (r.dispatchTo actor) w = (outcomes.map .ok, middle))
    (answered : (r.dispatchTo actor command middle).1 ≠ .error .actorGone) :
    r.late w.outside.sent = false ∧ w.outside.actors.isAlive actor = true := by
  cases commands with
  | nil =>
      cases (congrArg Prod.snd ran : w = middle)
      exact reached answered
  | cons first rest =>
      obtain ⟨outcome, others, between, rfl, once, -⟩ := dispatchToAll_cons ran
      have came : (r.dispatchTo actor first w).1 ≠ .error .actorGone := by simp [once]
      exact reached came

/-- A batch stops where its commands one after another meet a configuration error, and stores
what the commands before have come to. -/
theorem batchTo_of_failure (view : r.storage.View) (reliable : r.storage.Reliable)
    (uncached : w.outside.Uncached) {before rest : List Signal} {outcomes : List Outcome}
    {middle last : World (RepositoryState β σ)} {error : ConfigurationError}
    (ran : before.mapM (r.dispatchTo actor) w = (outcomes.map .ok, middle))
    (failed : r.dispatchTo actor command middle = (.error (.configuration error), last)) :
    let place := r.cache.normalize actor.key
    ∃ batched s, r.dispatchBatchTo actor (before ++ command :: rest) w =
        (.error (.configuration error), batched) ∧
      batched.outside.Uncached ∧ view.record batched.outside.cached.backing place = some s ∧
      ((r.inventory view middle.outside.cached).latest r.model place).Like w.supply s := by
  intro place
  have answered : (r.dispatchTo actor command middle).1 ≠ .error .actorGone := by simp [failed]
  obtain ⟨prompt, alive⟩ := reached_first ran answered
  obtain ⟨proper, later, told, rfl, answers⟩ := dispatchToAll_answers view reliable
    (proper_of_uncached uncached) (.refl w.supply) ran
  have worked := dispatchTo_worked answered
  have answer := worker_answer view (w := inside middle) reliable proper actor.key command
  rw [worked, failed] at answer
  obtain ⟨-, -, next, answer, -⟩ := answer
  obtain ⟨s, stopped, like⟩ := answers.answerEach_stop (.refl w.supply _) (.refl w.supply) later
    (congrArg (fun answer => answer.1.1) answer) rest
  obtain ⟨given, settled, -⟩ := batchTo_settled view actor reliable (proper_of_uncached uncached)
    (.refl w.supply) prompt alive rfl (isCaching_of_uncached view uncached place) (by simp) stopped (by simp)
  refine ⟨_, s, Prod.ext given rfl, uncached_of_isCaching view fun key => ?_, ?_, like⟩
  · refine (congrArg (·.isCaching key) settled.settled).trans ?_
    rw [Inventory.isCaching_settle]
    exact Bool.and_eq_false_iff.mpr (.inr (isCaching_of_uncached view uncached key))
  · exact (congrArg (·.records place) settled.settled).trans (if_pos rfl)

end Handle

/-- With a storage that never fails and no entity being cached, a batch gives the outcomes of its
commands one after another and leaves the same entities, though each is loaded and stored only
once; ids and times of new events may differ. This is so exactly if no message to an entity finds
that its actor has ended since it was looked up, as a batch does not send it again. An actor stops
at the first configuration error as it does without a batch, and stores what the commands before it
have come to. -/
theorem dispatchBatch_refines (r : Repository β σ) (view : r.storage.View)
    (reliable : r.storage.Reliable) (w : World (RepositoryState β σ)) (uncached : w.outside.Uncached) :
    (∀ (signals : List Signal) (outcomes : List Outcome) (sequential : World (RepositoryState β σ)),
      signals.mapM r.dispatch w = (outcomes.map .ok, sequential) →
      ∃ reply batched, r.dispatchBatch signals w = (reply, batched) ∧ batched.outside.Uncached ∧
        (r.Prompt (r.addressed signals).length w → ∃ given, reply = .ok given ∧
          List.Forall₂ Outcome.Like outcomes given ∧ r.SameEntities w.supply sequential batched ∧
          r.TouchedOnce signals w.outside.cached.backing batched.outside.cached.backing) ∧
        (¬ r.Prompt (r.addressed signals).length w → reply = .error .actorGone)) ∧
    ∀ (actor : ActorRef) (before : List Signal) (command : Signal) (rest : List Signal)
        (outcomes : List Outcome) (middle last : World (RepositoryState β σ)) (error : ConfigurationError),
      before.mapM (r.dispatchTo actor) w = (outcomes.map .ok, middle) →
      r.dispatchTo actor command middle = (.error (.configuration error), last) →
      let place := r.cache.normalize actor.key
      ∃ batched s, r.dispatchBatchTo actor (before ++ command :: rest) w =
          (.error (.configuration error), batched) ∧
        batched.outside.Uncached ∧ view.record batched.outside.cached.backing place = some s ∧
        ((r.inventory view middle.outside.cached).latest r.model place).Like w.supply s :=
  ⟨fun _ _ _ => batch_of_sequence view reliable uncached,
    fun _ _ _ _ _ _ _ _ => batchTo_of_failure view reliable uncached⟩

theorem exists_map_ok {ε α : Type} {replies : List (Except ε α)}
    (fine : ∀ reply ∈ replies, reply.isOk = true) : ∃ outcomes : List α, replies = outcomes.map .ok := by
  induction replies with
  | nil => exact ⟨[], rfl⟩
  | cons reply rest ih =>
      obtain ⟨here, others⟩ := List.forall_mem_cons.mp fine
      obtain ⟨outcomes, rfl⟩ := ih others
      cases reply with
      | error error => cases here
      | ok outcome => exact ⟨outcome :: outcomes, rfl⟩

open Sample Branch in
/-- Commands for two accounts, one of them rejected, and one for no account. -/
def day : List Signal :=
  [opening "a", deposit "b", { opening "c" with target := none }, opening "b", opening "a", deposit "b"]

open Sample Branch in
theorem dispatchBatch_refines_branch :
    (∃ outcomes given batched, (day.mapM archive.dispatch archiveStart).1 = outcomes.map .ok ∧
      archive.dispatchBatch day archiveStart = (.ok given, batched) ∧
      List.Forall₂ Outcome.Like outcomes given ∧
      archive.TouchedOnce day archiveStart.outside.cached.backing batched.outside.cached.backing) ∧
    ∃ error batched s, archive.dispatchBatchTo clerk
        [opening "a", command "bank.Close" "a" [], deposit "a"] attended =
          (.error (.configuration error), batched) ∧
      archiveView.record batched.outside.cached.backing (archive.cache.normalize clerk.key) = some s := by
  have reliable : archive.storage.Reliable := Logged.reliable MemoryRecords.reliable
  constructor
  · obtain ⟨outcomes, fine⟩ := exists_map_ok
      (show ∀ reply ∈ (day.mapM archive.dispatch archiveStart).1, reply.isOk = true by decide +kernel)
    obtain ⟨_, batched, delivered, -, refines, -⟩ :=
      (dispatchBatch_refines archive archiveView reliable archiveStart (RepositoryState.cold_uncached _)).1
        day outcomes _ (Prod.ext fine rfl)
    obtain ⟨given, rfl, likes, -, touched⟩ := refines fun _ _ => rfl
    exact ⟨outcomes, given, batched, fine, delivered, likes, touched⟩
  · obtain ⟨outcomes, fine⟩ := exists_map_ok
      (show ∀ reply ∈ ([opening "a"].mapM (archive.dispatchTo clerk) attended).1, reply.isOk = true by
        decide +kernel)
    have failed : (archive.dispatchTo clerk (command "bank.Close" "a" [])
        ([opening "a"].mapM (archive.dispatchTo clerk) attended).2).1 =
        .error (.configuration (.missingHandler "account" "bank.Close")) := by
      decide +kernel
    obtain ⟨batched, s, stopped, -, stored, -⟩ :=
      (dispatchBatch_refines archive archiveView reliable attended (fun _ => rfl)).2 clerk [opening "a"]
        (command "bank.Close" "a" []) [deposit "a"] outcomes _ _ _ (Prod.ext fine rfl) (Prod.ext failed rfl)
    exact ⟨_, batched, s, stopped, stored⟩

open Sample Branch in
/-- Commands for an account and for the one that a tenant has under the same id. -/
def shift : List Signal := [withdrawal "a", ofTenant ⟨"_shared"⟩ (deposit "a"), withdrawal "a"]

open Sample Branch in
/-- One message that comes too late ends a batch, though one after another all commands of it are
answered. And where two entities share a record, as no view of a storage allows, the commands of a
batch do not reach it in their order: the second withdrawal comes before the deposit. -/
theorem dispatchBatch_departs :
    (racing.storage.Reliable ∧ archiveStart.outside.Uncached ∧
      (∀ reply ∈ (day.mapM racing.dispatch archiveStart).1, reply.isOk = true) ∧
      (racing.dispatchBatch day archiveStart).1 = .error .actorGone) ∧
    vaultStart.outside.Uncached ∧
      (shift.mapM vault.dispatch vaultStart).1.map (·.map Outcome.isSuccess) = [.ok false, .ok true, .ok true] ∧
      (vault.dispatchBatch shift vaultStart).1.map (·.map Outcome.isSuccess) = .ok [false, true, false] := by
  refine ⟨⟨Logged.reliable MemoryRecords.reliable, RepositoryState.cold_uncached _, ?_, ?_⟩,
    RepositoryState.cold_uncached _, ?_, ?_⟩ <;> decide +kernel

end Switchboard.Repository
