import Switchboard.Outcome
import Switchboard.Proofs.Aggregate.Calls

namespace Switchboard

/-! What a signal has from the one whose handling produced it. -/

variable {σ : Type}

/-- The signals concern the same entity under the same circumstances. -/
structure Signal.Akin (signal other : Signal) : Prop where
  target : signal.target = other.target
  actor : signal.context.actor = other.context.actor
  tenant : signal.context.tenant = other.context.tenant
  correlation : signal.context.correlation = other.context.correlation
  metadata : signal.context.metadata = other.context.metadata

theorem Signal.Akin.trans {first second third : Signal} (one : first.Akin second) (other : second.Akin third) :
    first.Akin third :=
  ⟨one.target.trans other.target, one.actor.trans other.actor, one.tenant.trans other.tenant,
    one.correlation.trans other.correlation, one.metadata.trans other.metadata⟩

/-- The first signal is an event that can have been produced by handling the other. -/
structure Signal.Inherits (event parent : Signal) : Prop extends event.Akin parent where
  kind : event.kind = .event
  delay : event.context.delay = none
  origin : event.context.origin = some parent.id

theorem produced_inherits (message : EventMessage) (parent : Signal) (producer : String) (version : Option UInt64)
    (supply : Supply) : (Signal.produced message parent producer version supply).1.Inherits parent :=
  ⟨⟨rfl, rfl, rfl, rfl, rfl⟩, rfl, rfl, rfl⟩

/-- Every event that the outcome reports was produced by the signal. -/
def Outcome.Inherits (outcome : Outcome) (parent : Signal) : Prop := ∀ event ∈ outcome.followUps, event.Inherits parent

theorem Outcome.failure_inherits (error : ErrorRecord) (parent : Signal) : (failure error).Inherits parent :=
  List.forall_mem_nil _

theorem ofHandlerError_inherits (error : HandlerError) (parent : Signal) (supply : Supply) :
    (Outcome.ofHandlerError error parent supply).1.Inherits parent := by
  cases error with
  | failed type message => exact Outcome.failure_inherits _ _
  | rejected rejection =>
      intro event member
      obtain rfl := List.mem_singleton.mp member
      exact produced_inherits rejection.eventMessage parent Rejection.producer none supply

theorem mapM_inherits {make : EventMessage → StateM Supply Signal} {parent : Signal}
    (each : ∀ message supply, (make message supply).1.Inherits parent) (messages : List EventMessage) (supply : Supply) :
    ∀ event ∈ (messages.mapM make supply).1, event.Inherits parent := by
  induction messages generalizing supply with
  | nil => exact List.forall_mem_nil _
  | cons message rest ih =>
      simp only [List.mapM_cons, Computation.bind_apply, Computation.pure_apply, List.forall_mem_cons]
      exact ⟨each message supply, ih _⟩

namespace Root

/-- An event that gets its version has the rest of its context as before. -/
theorem produce_inherits {model : AggregateModel σ} {producer : String} {command : Signal} {s last : Snapshot σ}
    {messages : List EventMessage} {supply : Supply} {events : List Signal}
    (done : (produce model producer command s messages supply).1 = .ok (events, last)) :
    ∀ event ∈ events, event.Inherits command := by
  induction messages generalizing s supply events with
  | nil =>
      cases done
      exact List.forall_mem_nil _
  | cons message rest ih =>
      have made := produced_inherits message command producer none supply
      simp only [produce, Computation.bind_apply] at done
      rcases first : Signal.produced message command producer none supply with ⟨event, middle⟩
      rw [first] at made done
      cases applied : s.apply model event with
      | error error =>
          rw [applied] at done
          cases done
      | ok next =>
          simp only [applied, Computation.bind_apply, Computation.pure_apply] at done
          rcases others : produce model producer command next rest middle with ⟨_ | ⟨later, stop⟩, after⟩
          · rw [others] at done
            cases done
          · rw [others] at done
            cases done
            refine List.forall_mem_cons.mpr ⟨⟨⟨made.target, made.actor, made.tenant, made.correlation,
              made.metadata⟩, made.kind, made.delay, made.origin⟩, ?_⟩
            exact ih (congrArg Prod.fst others)

theorem dispatch_inherits {model : AggregateModel σ} {r root : Root σ} {command : Signal} {supply : Supply}
    {events : List Signal} (done : (dispatch model command r supply).1 = (.ok events, root)) :
    ∀ event ∈ events, event.Inherits command := by
  obtain ⟨messages, last, -, produced, -⟩ := dispatch_ok done
  exact produce_inherits produced

end Root

end Switchboard
