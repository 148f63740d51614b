import Switchboard.Proofs.Aggregate.Answers
import Switchboard.Proofs.Repository.Grouping

namespace Switchboard.Repository

/-! Commands that are dispatched one after another. With a storage that never fails, every
entity answers those that are for it. -/

variable {β σ : Type} {r : Repository β σ} (view : r.storage.View) {key : EntityKey}
  {command : Signal} {outcome : Outcome} {start : Supply}

/-- An entity has given an answer, some time after the start, and no other has changed. -/
structure Answered (r : Repository β σ) (view : r.storage.View) (start : Supply) (key : EntityKey)
    (command : Signal) (outcome : Outcome) (before after : World (Cached β (Root σ))) : Prop where
  proper : r.Proper after.outside
  later : start.Later after.supply
  caching : ∀ other, (r.inventory view after.outside).isCaching other =
    (r.inventory view before.outside).isCaching other
  answered : ∃ u next, start.Later u ∧
    (r.model.answer key ((r.inventory view before.outside).latest r.model key) command u).1 =
      (.ok outcome, next) ∧
    ∀ other, (r.inventory view after.outside).latest r.model other =
      if other = key then next else (r.inventory view before.outside).latest r.model other

section Worker

variable {w : World (Cached β (Root σ))}

theorem worker_answer (reliable : r.storage.Reliable) (proper : r.Proper w.outside) (key : EntityKey)
    (command : Signal) :
    let place := r.cache.normalize key
    let before := r.inventory view w.outside
    let (reply, after) := r.worker.dispatch key command w
    r.Proper after.outside ∧
      (∀ other, (r.inventory view after.outside).isCaching other = before.isCaching other) ∧
      ∃ next, r.model.answer place (before.latest r.model place) command w.supply =
          ((reply, next), after.supply) ∧
        ∀ other, (r.inventory view after.outside).latest r.model other =
          if other = place then next else before.latest r.model other := by
  intro place before
  have working := worker_cases view proper key command
  rcases worked : r.worker.dispatch key command w with ⟨reply, after⟩
  rw [worked] at working
  obtain ⟨proper, ⟨_, -, unreliable, -⟩ | ⟨next, answered, kept⟩⟩ := working
  · exact absurd reliable unreliable
  · obtain ⟨silent, rfl⟩ | ⟨events, rfl, -⟩ :=
      AggregateModel.answer_cases (congrArg Prod.fst answered)
    · have silent : reported reply = none := silent
      rw [silent] at kept
      refine ⟨proper, fun other => ?_, _, answered, fun other => ?_⟩
      · rw [kept]
        exact Inventory.isCaching_hold
      · rw [kept]
        refine Inventory.latest_hold_latest.trans ?_
        split
        · rename_i here
          rw [here]
        · rfl
    · refine ⟨proper, fun other => ?_, next, answered, fun other => ?_⟩
      · rw [kept]
        exact Inventory.isCaching_keep
      · rw [kept]
        exact Inventory.latest_keep

theorem worker_answered (reliable : r.storage.Reliable) (proper : r.Proper w.outside)
    (later : start.Later w.supply) {after : World (Cached β (Root σ))}
    (worked : r.worker.dispatch key command w = (.ok outcome, after)) :
    r.Answered view start (r.cache.normalize key) command outcome w after := by
  have answer := worker_answer view reliable proper key command
  rw [worked] at answer
  obtain ⟨proper, caching, next, answered, latest⟩ := answer
  refine ⟨proper, ?_, caching, w.supply, next, later, congrArg Prod.fst answered, latest⟩
  have ticked := answer_later r.model (r.cache.normalize key)
    ((r.inventory view w.outside).latest r.model (r.cache.normalize key)) command later
  rwa [answered] at ticked

end Worker

variable {w : World (RepositoryState β σ)} {after : World (RepositoryState β σ)}

/-- An actor that ends over a command has not changed anything. -/
theorem worker_gone {w after : World (Cached β (Root σ))} (reliable : r.storage.Reliable)
    (proper : r.Proper w.outside) (later : start.Later w.supply)
    (worked : r.worker.dispatch key command w = (.error .actorGone, after)) :
    r.Proper after.outside ∧ start.Later after.supply ∧
      (∀ other, (r.inventory view after.outside).isCaching other =
        (r.inventory view w.outside).isCaching other) ∧
      (r.inventory view after.outside).latest r.model = (r.inventory view w.outside).latest r.model := by
  have answer := worker_answer view reliable proper key command
  rw [worked] at answer
  obtain ⟨proper, caching, next, answered, latest⟩ := answer
  have ticked := answer_later r.model (r.cache.normalize key)
    ((r.inventory view w.outside).latest r.model (r.cache.normalize key)) command later
  rw [answered] at ticked
  obtain ⟨-, rfl⟩ | ⟨_, gone, -⟩ := AggregateModel.answer_cases (congrArg Prod.fst answered)
  · refine ⟨proper, ticked, caching, funext fun other => (latest other).trans ?_⟩
    split
    · rename_i here
      rw [here]
    · rfl
  · cases gone

theorem dispatch_answered (reliable : r.storage.Reliable) (proper : r.Proper w.outside.cached)
    (later : start.Later w.supply) (target : r.keyOf? command = some key)
    (dispatched : r.dispatch command w = (.ok outcome, after)) :
    r.Answered view start key command outcome (inside w) (inside after) := by
  have attempts := dispatch_attempts w target
  rw [dispatched] at attempts
  obtain ⟨middle, first, ⟨gone, -⟩ | worked⟩ := attempts
  · cases gone
  · obtain rfl | ended := first
    · exact keyOf_normal target ▸ worker_answered view reliable proper later worked
    · obtain ⟨proper, later, caching, same⟩ := worker_gone view reliable proper later ended
      have answered : r.Answered view start (r.cache.normalize key) command outcome middle (inside after) :=
        worker_answered view reliable proper later worked
      rw [keyOf_normal target] at answered
      obtain ⟨proper, later, still, u, next, between, answer, latest⟩ := answered
      rw [same] at answer latest
      exact ⟨proper, later, fun other => (still other).trans (caching other),
        u, next, between, answer, latest⟩

theorem dispatch_homeless (homeless : r.keyOf? command = none) :
    r.dispatch command w = (.ok (missingTarget command), w) := by
  simp only [dispatch, homeless, Computation.pure_apply]

def told (outcome : Nat → Outcome) (placed : List (Nat × Signal)) : List (Signal × Outcome) :=
  placed.map fun command => (command.2, outcome command.1)

/-- In a run without errors each entity has answered the commands that are for it, in order. -/
theorem dispatchAll_answers (reliable : r.storage.Reliable) (proper : r.Proper w.outside.cached)
    (later : start.Later w.supply) {placed : List (Nat × Signal)} {outcome : Nat → Outcome}
    (ran : (placed.map Prod.snd).mapM r.dispatch w =
      (placed.map fun command => .ok (outcome command.1), after)) :
    r.Proper after.outside.cached ∧ start.Later after.supply ∧
      (∀ key, (r.inventory view after.outside.cached).isCaching key =
        (r.inventory view w.outside.cached).isCaching key) ∧
      (∀ key, Answers r.model key start ((r.inventory view w.outside.cached).latest r.model key)
        (told outcome (r.own key placed)) ((r.inventory view after.outside.cached).latest r.model key)) ∧
      ∀ command ∈ placed, r.keyOf? command.2 = none → outcome command.1 = missingTarget command.2 := by
  induction placed generalizing w with
  | nil =>
      cases ran
      exact ⟨proper, later, fun _ => rfl, fun _ => .nil _, by simp⟩
  | cons command rest ih =>
      obtain ⟨place, command⟩ := command
      simp only [List.map_cons, List.mapM_cons, Computation.bind_apply, Computation.pure_apply] at ran
      rcases once : r.dispatch command w with ⟨reply, middle⟩
      rcases others : (rest.map Prod.snd).mapM r.dispatch middle with ⟨replies, ended⟩
      rw [once, others] at ran
      obtain ⟨⟨rfl, rfl⟩, rfl⟩ : (reply = .ok (outcome place) ∧
          replies = rest.map fun command => .ok (outcome command.1)) ∧ ended = after := by
        cases ran
        exact ⟨⟨rfl, rfl⟩, rfl⟩
      cases target : r.keyOf? command with
      | none =>
          obtain ⟨told, rfl⟩ : outcome place = missingTarget command ∧ middle = w := by
            have same := once.symm.trans (dispatch_homeless target)
            exact ⟨Except.ok.inj (congrArg Prod.fst same), congrArg Prod.snd same⟩
          obtain ⟨proper, later, caching, answers, homeless⟩ := ih proper later others
          refine ⟨proper, later, caching, fun key => ?_, List.forall_mem_cons.mpr ⟨fun _ => told, homeless⟩⟩
          rw [own_cons, if_neg (by simp [target])]
          exact answers key
      | some key =>
          obtain ⟨proper, later, still, u, next, between, answer, latest⟩ :=
            dispatch_answered view reliable proper later target once
          obtain ⟨proper, later, caching, answers, homeless⟩ := ih proper later others
          refine ⟨proper, later, fun other => (caching other).trans (still other), fun other => ?_,
            List.forall_mem_cons.mpr ⟨fun none => by simp [target] at none, homeless⟩⟩
          have continued := answers other
          change Answers _ _ _ ((r.inventory view (inside middle).outside).latest r.model other) _ _ at continued
          rw [latest other] at continued
          by_cases here : key = other
          · subst here
            rw [if_pos rfl] at continued
            rw [own_cons, if_pos target]
            exact .cons between answer continued
          · rw [if_neg (Ne.symm here)] at continued
            rw [own_cons, if_neg (by simpa [target] using here)]
            exact continued

end Switchboard.Repository
