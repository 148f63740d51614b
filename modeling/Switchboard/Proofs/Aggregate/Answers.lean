import Switchboard.Proofs.Aggregate.Likeness

namespace Switchboard

/-! Commands that an entity answers one after another, with time passing in between. -/

variable {σ : Type} {model : AggregateModel σ} {key : EntityKey} {start u v : Supply}
  {s t middle last : Snapshot σ} {told : List (Signal × Outcome)}

/-- An entity that answers these commands so goes from one snapshot to another. -/
inductive Answers (model : AggregateModel σ) (key : EntityKey) (start : Supply) :
    Snapshot σ → List (Signal × Outcome) → Snapshot σ → Prop where
  | nil (s : Snapshot σ) : Answers model key start s [] s
  | cons {s next last : Snapshot σ} {u : Supply} {command : Signal} {outcome : Outcome}
      {told : List (Signal × Outcome)} (later : start.Later u)
      (answered : (model.answer key s command u).1 = (.ok outcome, next))
      (rest : Answers model key start next told last) :
      Answers model key start s ((command, outcome) :: told) last

theorem Answers.eq_of_nil (answers : Answers model key start s [] last) : s = last := by
  cases answers
  rfl

theorem answerEach_later (model : AggregateModel σ) (key : EntityKey) (s : Snapshot σ)
    (commands : List Signal) (later : start.Later u) :
    start.Later (model.answerEach key s commands u).2 := by
  induction commands generalizing s u with
  | nil => exact later
  | cons command rest ih =>
      have once := answer_later model key s command later
      simp only [AggregateModel.answerEach, Computation.bind_apply]
      generalize model.answer key s command u = answered at once ⊢
      obtain ⟨⟨_ | outcome, next⟩, supply⟩ := answered
      · exact once
      · exact ih next once

theorem answerEach_append {first rest : List Signal} {outcomes : List Outcome}
    {replies : Except DispatchError (List Outcome)} {after : Supply}
    (answered : model.answerEach key s first u = ((.ok outcomes, middle), v))
    (later : model.answerEach key middle rest v = ((replies, last), after)) :
    model.answerEach key s (first ++ rest) u = ((replies.map (outcomes ++ ·), last), after) := by
  induction first generalizing s u outcomes with
  | nil =>
      cases answered
      rw [List.nil_append, later]
      cases replies <;> rfl
  | cons command more ih =>
      simp only [AggregateModel.answerEach, List.cons_append, Computation.bind_apply] at answered ⊢
      generalize model.answer key s command u = once at answered ⊢
      obtain ⟨⟨_ | outcome, next⟩, supply⟩ := once
      · cases answered
      · simp only [Computation.bind_apply, Computation.pure_apply] at answered ⊢
        rcases tail : model.answerEach key next more supply with ⟨⟨_ | others, reached⟩, time⟩
        · rw [tail] at answered
          cases answered
        · rw [tail] at answered
          cases answered
          rw [ih tail]
          cases replies <;> rfl

/-- A like entity gives like answers, at any other time after the start. -/
theorem Answers.answerEach (answers : Answers model key start s told last)
    (snapshots : s.Like start t) (later : start.Later v) :
    ∃ outcomes after, (model.answerEach key t (told.map Prod.fst) v).1 = (.ok outcomes, after) ∧
      List.Forall₂ Outcome.Like (told.map Prod.snd) outcomes ∧ last.Like start after := by
  induction answers generalizing t v with
  | nil s => exact ⟨[], t, rfl, .nil, snapshots⟩
  | @cons s next last u command outcome told first answered rest ih =>
      have like := answer_like model key command snapshots first later
      rw [answered] at like
      have later := answer_later model key t command later
      simp only [AggregateModel.answerEach, List.map_cons, Computation.bind_apply]
      generalize model.answer key t command v = again at like later ⊢
      obtain ⟨⟨reply, after⟩, supply⟩ := again
      obtain ⟨replies, snapshots⟩ := like
      cases replies with
      | @ok _ other alike =>
          obtain ⟨outcomes, reached, told, alikes, ended⟩ := ih snapshots later
          refine ⟨other :: outcomes, reached, ?_, .cons alike alikes, ended⟩
          simp only [Computation.bind_apply, Computation.pure_apply, told]
          rfl

/-- Where a like entity would not answer one more command, it stops there. -/
theorem Answers.answerEach_stop (answers : Answers model key start s told last)
    (snapshots : s.Like start t) (later : start.Later v) {command : Signal} {error : DispatchError}
    (between : start.Later u) (failed : (model.answer key last command u).1.1 = .error error)
    (rest : List Signal) :
    ∃ after, (model.answerEach key t (told.map Prod.fst ++ command :: rest) v).1 = (.error error, after) ∧
      last.Like start after := by
  obtain ⟨outcomes, middle, begun, -, like⟩ := answers.answerEach snapshots later
  rcases started : model.answerEach key t (told.map Prod.fst) v with ⟨replies, supply⟩
  have soon := answerEach_later model key t (told.map Prod.fst) later
  rw [started] at begun soon
  obtain rfl : replies = (.ok outcomes, middle) := begun
  have stop := answer_like model key command like between soon
  rcases answered : model.answer key last command u with ⟨⟨reply, next⟩, _⟩
  rcases again : model.answer key middle command supply with ⟨⟨other, after⟩, final⟩
  rw [answered] at failed stop
  rw [again] at stop
  obtain rfl : reply = .error error := failed
  obtain ⟨-, rfl⟩ | ⟨_, success, -⟩ := AggregateModel.answer_cases (congrArg Prod.fst answered)
  · obtain ⟨replies, like⟩ := stop
    cases replies
    have ended : model.answerEach key middle (command :: rest) supply = ((.error error, after), final) := by
      simp only [AggregateModel.answerEach, Computation.bind_apply, again]
      rfl
    rw [answerEach_append started ended]
    exact ⟨after, rfl, like⟩
  · cases success

end Switchboard
