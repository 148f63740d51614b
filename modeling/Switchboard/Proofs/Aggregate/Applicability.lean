import Switchboard.Proofs.Aggregate.Construction
import Switchboard.Proofs.Aggregate.Replay

namespace Switchboard

/-! What an entity can take. Whether an event can be applied, and what is said if it cannot, depends on its
type and payload alone; the first event that cannot be applied stops all. -/

variable {σ : Type} {model : AggregateModel σ} {m : EventMessage} {messages : List EventMessage}
  {error : AggregateError} {s : Snapshot σ} {r : Root σ} {event command : Signal} {events : List Signal}
  {supply : Supply}

namespace AggregateModel

/-- The event changes nothing by declaration, or there is an applier that can read it. -/
inductive Applicable (model : AggregateModel σ) (m : EventMessage) : Prop where
  | neutral (declared : model.isNeutral m.type = true) : Applicable model m
  | readable {μ : Type} {t : MessageType μ} {apply : σ → μ → σ} {message : μ}
      (found : model.applier? m.type = some (.reading t apply)) (read : m.data.decode t.decode = .ok message) :
      Applicable model m

/-- The event is not neutral, and has no applier or one that cannot read it. -/
inductive Inapplicable (model : AggregateModel σ) (m : EventMessage) : AggregateError → Prop where
  | undeclared (changing : model.isNeutral m.type = false) (missing : model.applier? m.type = none) :
      Inapplicable model m (.configuration (.missingApplier model.type m.type))
  | unreadable {μ : Type} {t : MessageType μ} {apply : σ → μ → σ} {error : DecodeError}
      (changing : model.isNeutral m.type = false) (found : model.applier? m.type = some (.reading t apply))
      (unread : m.data.decode t.decode = .error error) : Inapplicable model m (.decode m.type error)

/-- The first of the events that is not applicable gives this error. -/
inductive Obstructs (model : AggregateModel σ) : List EventMessage → AggregateError → Prop where
  | here {m : EventMessage} {rest : List EventMessage} {error : AggregateError}
      (inapplicable : model.Inapplicable m error) : Obstructs model (m :: rest) error
  | later {m : EventMessage} {rest : List EventMessage} {error : AggregateError} (applicable : model.Applicable m)
      (obstructs : Obstructs model rest error) : Obstructs model (m :: rest) error

theorem Built.applicable_or (built : model.Built) (m : EventMessage) :
    model.Applicable m ∨ ∃ error, model.Inapplicable m error := by
  cases changing : model.isNeutral m.type with
  | true => exact .inl (.neutral changing)
  | false =>
      rcases built.applier?_cases m.type with missing | ⟨μ, t, apply, found⟩
      · exact .inr ⟨_, .undeclared changing missing⟩
      · cases read : m.data.decode t.decode with
        | ok message => exact .inl (.readable found read)
        | error error => exact .inr ⟨_, .unreadable changing found read⟩

theorem Built.applicable_or_obstructs (built : model.Built) (messages : List EventMessage) :
    (∀ m ∈ messages, model.Applicable m) ∨ ∃ error, model.Obstructs messages error := by
  induction messages with
  | nil => exact .inl nofun
  | cons m rest ih =>
      rcases built.applicable_or m with applicable | ⟨error, inapplicable⟩
      · rcases ih with all | ⟨error, obstructs⟩
        · exact .inl (List.forall_mem_cons.mpr ⟨applicable, all⟩)
        · exact .inr ⟨error, .later applicable obstructs⟩
      · exact .inr ⟨error, .here inapplicable⟩

end AggregateModel

open AggregateModel

/-! ## Events that are applied -/

namespace Snapshot

theorem apply_applicable (s : Snapshot σ) (event : Signal) (applicable : model.Applicable event.eventMessage) :
    ∃ next, s.apply model event = .ok next := by
  by_cases neutral : model.isNeutral event.type = true
  · exact ⟨_, if_pos neutral⟩
  · cases applicable with
    | neutral declared => exact absurd declared neutral
    | @readable μ t apply message found read =>
        change model.applier? event.type = _ at found
        change event.payload.decode t.decode = _ at read
        rw [Snapshot.apply, if_neg neutral]
        simp only [found, Applier.reading, read, Except.map]
        exact ⟨_, rfl⟩

theorem apply_inapplicable (s : Snapshot σ) (event : Signal)
    (inapplicable : model.Inapplicable event.eventMessage error) :
    s.apply model event = .error error := by
  cases inapplicable with
  | undeclared changing missing =>
      change model.isNeutral event.type = false at changing
      change model.applier? event.type = none at missing
      rw [Snapshot.apply, if_neg (Bool.eq_false_iff.mp changing)]
      simp only [missing]
      rfl
  | @unreadable μ t apply error changing found unread =>
      change model.isNeutral event.type = false at changing
      change model.applier? event.type = _ at found
      change event.payload.decode t.decode = _ at unread
      rw [Snapshot.apply, if_neg (Bool.eq_false_iff.mp changing)]
      simp only [found, Applier.reading, unread, Except.map]
      rfl

theorem applyAll_applicable (s : Snapshot σ)
    (applicable : ∀ m ∈ events.map Signal.eventMessage, model.Applicable m) :
    ∃ next, s.applyAll model events = .ok next := by
  induction events generalizing s with
  | nil => exact ⟨s, rfl⟩
  | cons event rest ih =>
      obtain ⟨first, later⟩ := List.forall_mem_cons.mp applicable
      obtain ⟨middle, applied⟩ := s.apply_applicable event first
      obtain ⟨next, all⟩ := ih middle later
      exact ⟨next, by rw [applyAll_cons, applied]; exact all⟩

theorem applyAll_obstructed (s : Snapshot σ) (obstructs : model.Obstructs (events.map Signal.eventMessage) error) :
    s.applyAll model events = .error error := by
  induction events generalizing s with
  | nil => cases obstructs
  | cons event rest ih =>
      rw [applyAll_cons]
      cases obstructs with
      | here inapplicable =>
          rw [s.apply_inapplicable event inapplicable]
          rfl
      | later applicable obstructs =>
          obtain ⟨middle, applied⟩ := s.apply_applicable event applicable
          rw [applied]
          exact ih middle obstructs

end Snapshot

namespace Root

theorem produce_applicable (producer : String) (command : Signal) (s : Snapshot σ) (supply : Supply)
    (applicable : ∀ m ∈ messages, model.Applicable m) :
    ∃ result, (produce model producer command s messages supply).1 = .ok result := by
  induction messages generalizing s supply with
  | nil => exact ⟨([], s), rfl⟩
  | cons message rest ih =>
      obtain ⟨first, later⟩ := List.forall_mem_cons.mp applicable
      obtain ⟨next, applied⟩ := s.apply_applicable (Signal.produced message command producer none supply).1 first
      obtain ⟨result, produced⟩ := ih next (Signal.produced message command producer none supply).2 later
      rw [produce_cons, applied]
      exact ⟨_, congrArg (Except.map _) produced⟩

theorem produce_obstructed {producer : String} (s : Snapshot σ) (supply : Supply)
    (obstructs : model.Obstructs messages error) :
    (produce model producer command s messages supply).1 = .error error := by
  induction messages generalizing s supply with
  | nil => cases obstructs
  | cons message rest ih =>
      rw [produce_cons]
      cases obstructs with
      | here inapplicable =>
          rw [s.apply_inapplicable (Signal.produced message command producer none supply).1 inapplicable]
          rfl
      | later applicable obstructs =>
          obtain ⟨next, applied⟩ :=
            s.apply_applicable (Signal.produced message command producer none supply).1 applicable
          rw [applied]
          exact congrArg (Except.map _) (ih next _ obstructs)

/-! ## Commands that are dispatched -/

/-- The handler of the command can read it, and this is what it says. -/
inductive Judges (model : AggregateModel σ) (r : Root σ) (command : Signal) : Verdict → Prop where
  | of {μ : Type} {t : MessageType μ} {handle : σ → μ → HandlerContext → Verdict} {message : μ}
      (known : model.handler? command.type = some (.reading t handle))
      (read : command.payload.decode t.decode = .ok message) :
      Judges model r command (handle r.state message ⟨r.key.id, r.version, command⟩)

/-- Why a command fails. Each cause supposes that those before it do not apply. -/
inductive Fails (model : AggregateModel σ) (r : Root σ) (command : Signal) : AggregateError → Prop where
  | unhandled (missing : model.handler? command.type = none) :
      Fails model r command (.configuration (.missingHandler model.type command.type))
  | unreadable {μ : Type} {t : MessageType μ} {handle : σ → μ → HandlerContext → Verdict} {error : DecodeError}
      (known : model.handler? command.type = some (.reading t handle))
      (unread : command.payload.decode t.decode = .error error) :
      Fails model r command (.handler (.codec error.message))
  | refused {error : HandlerError} (judges : r.Judges model command (.given (.error error))) :
      Fails model r command (.handler error)
  | unwritable {error : EncodeError} (judges : r.Judges model command (.given (.ofEvents (.error error)))) :
      Fails model r command (.handler (.codec error.message))
  | crashed (judges : r.Judges model command .crashed) : Fails model r command .crashed
  | obstructed {messages : List EventMessage} {error : AggregateError}
      (judges : r.Judges model command (.given (.ok messages))) (obstructs : model.Obstructs messages error) :
      Fails model r command error

theorem Judges.decide {result : HandlerResult} (judges : r.Judges model command (.given result)) :
    r.decide model command = result.mapError .handler := by
  generalize given : Verdict.given result = verdict at judges
  obtain ⟨known, read⟩ := judges
  simp only [Root.decide, known, CommandHandler.reading, read, ← given]
  cases result <;> rfl

/-- A command that fails leaves the entity as it was. -/
theorem Fails.dispatch (fails : r.Fails model command error) (supply : Supply) :
    (dispatch model command r supply).1 = (.error error, r) := by
  have undecided (decided : r.decide model command = .error error) :
      (Root.dispatch model command r supply).1 = (.error error, r) := by
    rw [dispatch_undecided decided]
  cases fails with
  | unhandled missing => exact undecided (by simp only [Root.decide, missing])
  | unreadable known unread =>
      exact undecided (by simp only [Root.decide, known, CommandHandler.reading, unread])
  | refused judges => exact undecided judges.decide
  | unwritable judges => exact undecided judges.decide
  | crashed judges =>
      refine undecided ?_
      generalize given : Verdict.crashed = verdict at judges
      obtain ⟨known, read⟩ := judges
      simp only [Root.decide, known, CommandHandler.reading, read, ← given]
  | obstructed judges obstructs =>
      rw [dispatch_obstructed judges.decide (Prod.ext (produce_obstructed r.snapshot supply obstructs) rfl)]

/-- A command that has no cause to fail succeeds. -/
theorem dispatch_or_fails (built : model.Built) (r : Root σ) (command : Signal) (supply : Supply) :
    (∃ events next, (dispatch model command r supply).1 = (.ok events, next)) ∨
      ∃ error, r.Fails model command error := by
  rcases built.handler?_cases command.type with missing | ⟨μ, t, handle, known⟩
  · exact .inr ⟨_, .unhandled missing⟩
  cases read : command.payload.decode t.decode with
  | error error => exact .inr ⟨_, .unreadable known read⟩
  | ok message =>
      have judges : r.Judges model command _ := .of known read
      cases given : handle r.state message ⟨r.key.id, r.version, command⟩ with
      | crashed => exact .inr ⟨_, .crashed (given ▸ judges)⟩
      | given result =>
          rw [given] at judges
          cases result with
          | error error => exact .inr ⟨_, .refused judges⟩
          | ok messages =>
              rcases built.applicable_or_obstructs messages with applicable | ⟨error, obstructs⟩
              · left
                obtain ⟨made, produced⟩ := produce_applicable r.key.id command r.snapshot supply applicable
                exact ⟨made.1, _, by rw [dispatch_produced judges.decide (Prod.ext produced rfl)]⟩
              · exact .inr ⟨error, .obstructed judges obstructs⟩

end Root
end Switchboard
