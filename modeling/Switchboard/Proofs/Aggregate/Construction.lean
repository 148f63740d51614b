import Switchboard.Aggregate.Model

namespace Switchboard

/-! Models are put together part by part, and every part reads a payload before it does anything else. -/

variable {σ μ : Type}

/-- The handler of a model that reads the payload first. -/
def CommandHandler.reading {μ : Type} (t : MessageType μ) (handle : σ → μ → HandlerContext → Verdict) :
    CommandHandler σ where
  command := t.toClass
  handle state payload context :=
    match payload.decode t.decode with
    | .ok command => handle state command context
    | .error error => .given (.error (.codec error.message))

/-- The applier of a model that reads the payload first. -/
def Applier.reading (t : MessageType μ) (apply : σ → μ → σ) : Applier σ where
  event := t.name
  apply state payload := (payload.decode t.decode).map (apply state)

theorem mem_of_mem_replacing {α : Type} {key : α → String} {item other : α} {items : List α}
    (member : other ∈ replacing key item items) : other = item ∨ other ∈ items :=
  (List.mem_cons.mp member).imp_right fun kept => (List.mem_filter.mp kept).1

namespace AggregateModel

/-- Models as they are put together. -/
inductive Built : AggregateModel σ → Prop where
  | empty (type : String) (initial : σ) : Built (.empty type initial)
  | handles {model : AggregateModel σ} (built : Built model) {μ : Type} (t : MessageType μ)
      (handle : σ → μ → HandlerContext → Verdict) : Built (model.handles t handle)
  | applies {model : AggregateModel σ} (built : Built model) {μ : Type} (t : MessageType μ)
      (apply : σ → μ → σ) : Built (model.applies t apply)
  | neutral {model : AggregateModel σ} (built : Built model) (event : String) : Built (model.withNeutral event)
  | archived {model : AggregateModel σ} (built : Built model) (event : String) : Built (model.archivedBy event)
  | deleted {model : AggregateModel σ} (built : Built model) (event : String) : Built (model.deletedBy event)

namespace Built

variable {model : AggregateModel σ}

theorem reading_handlers (built : model.Built) :
    ∀ handler ∈ model.handlers, ∃ (μ : Type) (t : MessageType μ) (handle : σ → μ → HandlerContext → Verdict),
      handler = .reading t handle := by
  induction built with
  | empty type initial => exact nofun
  | handles built t handle ih =>
      intro handler member
      rcases mem_of_mem_replacing member with rfl | earlier
      · exact ⟨_, t, handle, rfl⟩
      · exact ih handler earlier
  | applies built t apply ih => exact ih
  | neutral built event ih => exact ih
  | archived built event ih => exact ih
  | deleted built event ih => exact ih

theorem reading_appliers (built : model.Built) :
    ∀ applier ∈ model.appliers, ∃ (μ : Type) (t : MessageType μ) (apply : σ → μ → σ),
      applier = .reading t apply := by
  induction built with
  | empty type initial => exact nofun
  | handles built t handle ih => exact ih
  | applies built t apply ih =>
      intro applier member
      rcases mem_of_mem_replacing member with rfl | earlier
      · exact ⟨_, t, apply, rfl⟩
      · exact ih applier earlier
  | neutral built event ih => exact ih
  | archived built event ih => exact ih
  | deleted built event ih => exact ih

/-- A command that is known at all is read before it is handled. -/
theorem handler?_cases (built : model.Built) (command : String) :
    model.handler? command = none ∨
      ∃ (μ : Type) (t : MessageType μ) (handle : σ → μ → HandlerContext → Verdict),
        model.handler? command = some (.reading t handle) := by
  cases found : model.handler? command with
  | none => exact .inl rfl
  | some handler =>
      obtain ⟨μ, t, handle, rfl⟩ := built.reading_handlers handler (List.mem_of_find?_eq_some found)
      exact .inr ⟨μ, t, handle, rfl⟩

/-- An event that has an applier is read before it is applied. -/
theorem applier?_cases (built : model.Built) (event : String) :
    model.applier? event = none ∨
      ∃ (μ : Type) (t : MessageType μ) (apply : σ → μ → σ), model.applier? event = some (.reading t apply) := by
  cases found : model.applier? event with
  | none => exact .inl rfl
  | some applier =>
      obtain ⟨μ, t, apply, rfl⟩ := built.reading_appliers applier (List.mem_of_find?_eq_some found)
      exact .inr ⟨μ, t, apply, rfl⟩

end Built
end AggregateModel
end Switchboard
