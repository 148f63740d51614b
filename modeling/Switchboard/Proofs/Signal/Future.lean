import Switchboard.Bus.Monitor
import Switchboard.Outcome
import Switchboard.Proofs.Aggregate.Calls

namespace Switchboard

/-! What is to come. Ids and times are taken from a supply one after another, and whatever takes
them cannot tell how many were taken before. -/

open Switchboard.Computation

variable {ω α β σ : Type}

/-- The ids and times that are still to come. -/
structure Future where
  ids : Nat → SignalId
  times : Nat → UInt64

namespace Future

/-- A supply of which nothing has been taken. -/
def supply (f : Future) : Supply := ⟨f.ids, f.times, 0, 0⟩

def afterId (f : Future) : Future := ⟨fun n => f.ids (1 + n), f.times⟩

def afterTime (f : Future) : Future := ⟨f.ids, fun n => f.times (1 + n)⟩

end Future

namespace Supply

def future (s : Supply) : Future := ⟨fun n => s.ids (s.idsDrawn + n), fun n => s.clock (s.readings + n)⟩

/-- Supplies with the same future. -/
def Alike (u v : Supply) : Prop := u.future = v.future

theorem future_supply (f : Future) : f.supply.future = f := by
  simp only [future, Future.supply, Nat.zero_add]

theorem future_freshId (s : Supply) : (freshId s).2.future = s.future.afterId := by
  simp only [future, freshId, Future.afterId, Nat.add_assoc]

theorem future_now (s : Supply) : (now s).2.future = s.future.afterTime := by
  simp only [future, now, Future.afterTime, Nat.add_assoc]

theorem freshId_blind : Blind Alike freshId := by
  intro u v same
  refine ⟨congrArg (fun f : Future => f.ids 0) same, ?_⟩
  rw [Alike, future_freshId, future_freshId, same]

theorem now_blind : Blind Alike now := by
  intro u v same
  refine ⟨congrArg (fun f : Future => f.times 0) same, ?_⟩
  rw [Alike, future_now, future_now, same]

end Supply

section Signals

theorem produced_blind (message : EventMessage) (origin : Signal) (producer : String) (version : Option UInt64) :
    Blind Supply.Alike (Signal.produced message origin producer version) :=
  .bind (Supply.now_blind.bind fun _ => .pure _) fun _ => Supply.freshId_blind.bind fun _ => .pure _

theorem ofHandlerError_blind (error : HandlerError) (command : Signal) :
    Blind Supply.Alike (Outcome.ofHandlerError error command) := by
  cases error with
  | rejected rejection =>
      exact .bind ((produced_blind rejection.eventMessage command Rejection.producer none).map _) fun _ => .pure _
  | failed type message => exact .pure _

theorem systemEvent_blind (m : Monitor) (ack : Ack) : Blind Supply.Alike (m.systemEvent ack) := by
  unfold Monitor.systemEvent
  cases m.signals.find? ack.id with
  | none => exact .pure _
  | some signal =>
      cases Monitor.message ack with
      | error error => exact .pure _
      | ok message => exact (produced_blind message signal Monitor.producer none).bind fun _ => .pure _

end Signals

namespace Root

theorem produce_blind (model : AggregateModel σ) (producer : String) (command : Signal) (s : Snapshot σ)
    (messages : List EventMessage) : Blind Supply.Alike (produce model producer command s messages) := by
  induction messages generalizing s with
  | nil => exact .pure _
  | cons message rest ih =>
      refine (produced_blind message command producer none).bind fun event => ?_
      cases s.apply model event with
      | error error => exact .pure _
      | ok next => exact (ih next).bind fun _ => .pure _

theorem dispatch_blind (model : AggregateModel σ) (r : Root σ) (command : Signal) :
    Blind Supply.Alike ((dispatch model command).run.run r) := by
  change Blind Supply.Alike (dispatch model command r)
  intro u v same
  cases decided : r.decide model command with
  | error error =>
      rw [dispatch_undecided decided, dispatch_undecided decided]
      exact ⟨rfl, same⟩
  | ok messages =>
      have made := produce_blind model r.key.id command r.snapshot messages same
      rcases first : produce model r.key.id command r.snapshot messages u with ⟨result, later⟩
      rcases second : produce model r.key.id command r.snapshot messages v with ⟨other, after⟩
      rw [first, second] at made
      obtain ⟨rfl, left⟩ : result = other ∧ later.Alike after := made
      cases result with
      | error error =>
          rw [dispatch_obstructed decided first, dispatch_obstructed decided second]
          exact ⟨rfl, left⟩
      | ok made =>
          rw [dispatch_produced decided first, dispatch_produced decided second]
          exact ⟨rfl, left⟩

end Root

/-- The second world is the first with a change outside, and as much is to come in both. -/
structure World.Alike (change : ω → ω) (u v : World ω) : Prop where
  outside : v.outside = change u.outside
  supply : u.supply.Alike v.supply

section Acts

variable {change : ω → ω}

theorem drawing_blind {step : StateM Supply α} (blind : Blind Supply.Alike step) :
    Blind (World.Alike change) (Act.drawing step) := by
  intro u v same
  obtain ⟨value, later⟩ := blind same.supply
  exact ⟨value, same.outside, later⟩

/-- A computation on the outside takes no part in what is to come. -/
theorem outside_blind {step : StateM ω α} (blind : Blind (fun o other => other = change o) step) :
    Blind (World.Alike change) (Act.outside step) := by
  intro u v same
  obtain ⟨value, after⟩ := blind same.outside
  exact ⟨value, after, same.supply⟩

theorem outside_plain (step : StateM ω α) : Blind (World.Alike id) (Act.outside step) := by
  refine outside_blind ?_
  rintro o other rfl
  exact ⟨rfl, rfl⟩

theorem within_blind (place : Place ω β) {act : Act β α} (blind : Blind (World.Alike id) act) :
    Blind (World.Alike id) (Act.within place act) := by
  intro u v same
  have inner : World.Alike id ⟨u.supply, place.get u.outside⟩ ⟨v.supply, place.get v.outside⟩ :=
    ⟨congrArg place.get same.outside, same.supply⟩
  obtain ⟨value, after⟩ := blind inner
  refine ⟨value, ?_, after.supply⟩
  change place.set _ v.outside = place.set _ u.outside
  rw [after.outside, same.outside]
  rfl

end Acts

end Switchboard
