import Mathlib.Data.List.Forall2
import Switchboard.Proofs.Aggregate.Answer

namespace Switchboard

/-! Likeness. Ids and times are drawn anew whenever something happens, and nothing else that
comes of a command depends on them. -/

variable {σ : Type}

namespace Supply

/-- What is left of a supply later on. -/
structure Later (start later : Supply) : Prop where
  clock : later.clock = start.clock
  readings : start.readings ≤ later.readings

/-- A time that the clock of a supply tells from now on. -/
def Tells (start : Supply) (time : UInt64) : Prop :=
  ∃ reading, start.readings ≤ reading ∧ time = start.clock reading

theorem Later.refl (start : Supply) : start.Later start := ⟨rfl, Nat.le_refl _⟩

end Supply

/-- Signals that differ at most in id and time. -/
def Signal.Like (a b : Signal) : Prop :=
  { a with id := b.id, context.timestamp := b.context.timestamp } = b

inductive Outcome.Like : Outcome → Outcome → Prop where
  | success {first second : List Signal} (events : List.Forall₂ Signal.Like first second) :
      Like (.success first) (.success second)
  | rejection {first second : Signal} (event : first.Like second) :
      Like (.rejection first) (.rejection second)
  | failure (error : ErrorRecord) : Like (.failure error) (.failure error)

/-- Snapshots that differ at most in the time of the last change, and then both were changed
after the start. -/
structure Snapshot.Like (start : Supply) (a b : Snapshot σ) : Prop where
  state : a.state = b.state
  version : a.version = b.version
  lifecycle : a.lifecycle = b.lifecycle
  timestamp : a.timestamp = b.timestamp ∨ (start.Tells a.timestamp ∧ start.Tells b.timestamp)

/-- Results that are like in the sense of a relation, or the same error. -/
inductive Matching {ε α β : Type} (like : α → β → Prop) : Except ε α → Except ε β → Prop where
  | ok {a : α} {b : β} (alike : like a b) : Matching like (.ok a) (.ok b)
  | error (error : ε) : Matching like (.error error) (.error error)

theorem Matching.error_iff {ε α β : Type} {like : α → β → Prop} {a : Except ε α} {b : Except ε β} {error : ε}
    (matching : Matching like a b) : a = .error error ↔ b = .error error := by
  cases matching <;> simp

variable {model : AggregateModel σ} {key : EntityKey} {start u v : Supply} {s t : Snapshot σ}
  {command : Signal}

theorem Signal.Like.refl (a : Signal) : a.Like a := rfl

theorem Signal.Like.type {a b : Signal} (like : a.Like b) : a.type = b.type := by
  rw [← show _ = b from like]

theorem Signal.Like.payload {a b : Signal} (like : a.Like b) : a.payload = b.payload := by
  rw [← show _ = b from like]

theorem Outcome.Like.refl (outcome : Outcome) : outcome.Like outcome := by
  cases outcome with
  | success events => exact .success (List.forall₂_same.mpr fun event _ => .refl event)
  | rejection event => exact .rejection (.refl event)
  | failure error => exact .failure error

theorem Snapshot.Like.refl (start : Supply) (s : Snapshot σ) : s.Like start s := ⟨rfl, rfl, rfl, .inl rfl⟩

section Produced

variable (message : EventMessage) (command : Signal) (producer : String) (version : Option UInt64)

theorem produced_like (u v : Supply) :
    (Signal.produced message command producer version u).1.Like
      (Signal.produced message command producer version v).1 := rfl

theorem produced_later (later : start.Later u) :
    start.Later (Signal.produced message command producer version u).2 :=
  ⟨later.clock, Nat.le_succ_of_le later.readings⟩

theorem produced_tells (later : start.Later u) :
    start.Tells (Signal.produced message command producer version u).1.context.timestamp :=
  ⟨u.readings, later.readings, congrFun later.clock u.readings⟩

end Produced

/-- Like events have like effects. -/
theorem apply_like (model : AggregateModel σ) {event other : Signal} (snapshots : s.Like start t)
    (events : event.Like other)
    (first : start.Tells event.context.timestamp) (second : start.Tells other.context.timestamp) :
    Matching (Snapshot.Like start) (s.apply model event) (t.apply model other) := by
  unfold Snapshot.apply
  rw [events.type, events.payload, snapshots.state]
  split
  · refine .ok ⟨snapshots.state, snapshots.version, ?_, snapshots.timestamp⟩
    simp only [Snapshot.mark, snapshots.lifecycle]
  · split
    · exact .error _
    · split
      · exact .error _
      · refine .ok ⟨rfl, ?_, ?_, .inr ⟨first, second⟩⟩
        · simp only [Snapshot.mark, snapshots.version]
        · simp only [Snapshot.mark, snapshots.lifecycle]

theorem produce_later {producer : String} {messages : List EventMessage} (later : start.Later u) :
    start.Later (Root.produce model producer command s messages u).2 := by
  induction messages generalizing s u with
  | nil => exact later
  | cons message rest ih =>
      have next := produced_later message command producer none later
      simp only [Root.produce, Computation.bind_apply]
      cases s.apply model (Signal.produced message command producer none u).1 with
      | error error => exact next
      | ok after => exact ih next

theorem produce_like (model : AggregateModel σ) (command : Signal) (producer : String)
    (messages : List EventMessage) (snapshots : s.Like start t)
    (first : start.Later u) (second : start.Later v) :
    Matching (fun a b => List.Forall₂ Signal.Like a.1 b.1 ∧ a.2.Like start b.2)
      (Root.produce model producer command s messages u).1
      (Root.produce model producer command t messages v).1 := by
  induction messages generalizing s t u v with
  | nil => exact .ok ⟨.nil, snapshots⟩
  | cons message rest ih =>
      have applied := apply_like model snapshots
        (produced_like message command producer none u v)
        (produced_tells message command producer none first)
        (produced_tells message command producer none second)
      simp only [Root.produce, Computation.bind_apply]
      generalize s.apply model (Signal.produced message command producer none u).1 = once at applied ⊢
      generalize t.apply model (Signal.produced message command producer none v).1 = twice at applied ⊢
      cases applied with
      | error error => exact .error error
      | @ok after other alike =>
          have later := ih alike (produced_later message command producer none first)
            (produced_later message command producer none second)
          simp only [Computation.bind_apply, Computation.pure_apply]
          generalize (Root.produce model producer command after rest
            (Signal.produced message command producer none u).2).1 = ended at later ⊢
          generalize (Root.produce model producer command other rest
            (Signal.produced message command producer none v).2).1 = finished at later ⊢
          cases later with
          | error error => exact .error error
          | ok both =>
              refine .ok ⟨.cons ?_ both.1, both.2⟩
              rw [alike.version]
              rfl

theorem ofHandlerError_later (error : HandlerError) (command : Signal) (later : start.Later u) :
    start.Later (Outcome.ofHandlerError error command u).2 := by
  cases error with
  | rejected rejection => exact produced_later rejection.eventMessage command Rejection.producer none later
  | failed type message => exact later

theorem ofHandlerError_like (error : HandlerError) (command : Signal) (u v : Supply) :
    (Outcome.ofHandlerError error command u).1.Like (Outcome.ofHandlerError error command v).1 := by
  cases error with
  | rejected rejection => exact .rejection (produced_like rejection.eventMessage command Rejection.producer none u v)
  | failed type message => exact .failure _

/-- What the handler of a command gives does not depend on times. -/
theorem decide_like (snapshots : s.Like start t) (command : Signal) :
    (Root.ofSnapshot model key s).decide model command =
      (Root.ofSnapshot model key t).decide model command := by
  simp only [Root.decide, Root.ofSnapshot, Root.restore, Root.fresh, snapshots.state, snapshots.version]

theorem dispatch_later (model : AggregateModel σ) (r : Root σ) (command : Signal) (later : start.Later u) :
    start.Later (Root.dispatch model command r u).2 := by
  obtain ⟨error, failed⟩ | ⟨messages, -, ⟨error, failed⟩ | ⟨events, last, -, done⟩⟩ :=
    Root.dispatch_cases model r command u
  · rw [failed]
    exact later
  · rw [failed]
    exact produce_later later
  · rw [done]
    exact produce_later later

theorem dispatch_like (model : AggregateModel σ) (key : EntityKey) (command : Signal)
    (snapshots : s.Like start t) (first : start.Later u) (second : start.Later v) :
    let ended := (Root.dispatch model command (.ofSnapshot model key s) u).1
    let finished := (Root.dispatch model command (.ofSnapshot model key t) v).1
    Matching (List.Forall₂ Signal.Like) ended.1 finished.1 ∧ ended.2.snapshot.Like start finished.2.snapshot := by
  have alike : (Root.ofSnapshot model key s).decide model command =
      (Root.ofSnapshot model key t).decide model command := decide_like snapshots command
  cases decided : (Root.ofSnapshot model key t).decide model command with
  | error error =>
      rw [Root.dispatch_undecided decided, Root.dispatch_undecided (alike.trans decided)]
      exact ⟨.error error, snapshots⟩
  | ok messages =>
      have made := produce_like model command key.id messages snapshots first second
      rcases produced : Root.produce model key.id command s messages u with ⟨result, later⟩
      rcases others : Root.produce model key.id command t messages v with ⟨other, after⟩
      rw [produced, others] at made
      dsimp only at made
      cases made with
      | error error =>
          rw [Root.dispatch_obstructed decided others, Root.dispatch_obstructed (alike.trans decided) produced]
          exact ⟨.error error, snapshots⟩
      | ok both =>
          rw [Root.dispatch_produced decided others, Root.dispatch_produced (alike.trans decided) produced]
          exact ⟨.ok both.1, both.2⟩

theorem answer_later (model : AggregateModel σ) (key : EntityKey) (s : Snapshot σ) (command : Signal)
    (later : start.Later u) : start.Later (model.answer key s command u).2 := by
  have dispatched := dispatch_later model (.ofSnapshot model key s) command later
  simp only [AggregateModel.answer, Computation.bind_apply, ExceptT.run, StateT.run]
  generalize Root.dispatch model command (.ofSnapshot model key s) u = made at dispatched ⊢
  obtain ⟨⟨result, root⟩, next⟩ := made
  cases result with
  | ok events => exact dispatched
  | error error =>
      cases error with
      | handler error => exact ofHandlerError_later error command dispatched
      | _ => exact dispatched

/-- Like entities give like answers to a command. -/
theorem answer_like (model : AggregateModel σ) (key : EntityKey) (command : Signal)
    (snapshots : s.Like start t) (first : start.Later u) (second : start.Later v) :
    Matching Outcome.Like (model.answer key s command u).1.1 (model.answer key t command v).1.1 ∧
      (model.answer key s command u).1.2.Like start (model.answer key t command v).1.2 := by
  have dispatched := dispatch_like model key command snapshots first second
  simp only [AggregateModel.answer, Computation.bind_apply, ExceptT.run, StateT.run]
  generalize Root.dispatch model command (.ofSnapshot model key s) u = made at dispatched ⊢
  generalize Root.dispatch model command (.ofSnapshot model key t) v = again at dispatched ⊢
  obtain ⟨⟨result, root⟩, next⟩ := made
  obtain ⟨⟨answer, reached⟩, later⟩ := again
  obtain ⟨results, roots⟩ := dispatched
  dsimp only at results roots ⊢
  cases results with
  | ok events => exact ⟨.ok (.success events), roots⟩
  | error error =>
      cases error with
      | handler error => exact ⟨.ok (ofHandlerError_like error command next later), snapshots⟩
      | configuration error => exact ⟨.error _, snapshots⟩
      | decode event error => exact ⟨.ok (.refl _), snapshots⟩
      | crashed => exact ⟨.error _, snapshots⟩

end Switchboard
