import Switchboard.Bus.Posting
import Switchboard.Proofs.Repository.Foresight

namespace Switchboard

/-! A bus does what it does by the ids and times that are to come, if its consumers are sets of handlers
and repositories. -/

open Switchboard.Computation

variable {ω α β : Type}

theorem handle_blind (set : HandlerSet ω) (signal : Signal) : Blind (World.Alike id) (set.handle signal) := by
  unfold HandlerSet.handle
  cases set.method? signal.type with
  | none => exact .pure _
  | some m =>
      refine (outside_plain _).bind fun result => ?_
      cases result with
      | error error => exact drawing_blind (ofHandlerError_blind error signal)
      | ok messages =>
          have made := Blind.mapM (fun message => produced_blind message signal set.id none) messages
          exact (drawing_blind made).bind fun _ => .pure _

/-- A set of handlers or a repository, whatever parts of the outside they share. -/
inductive Consumer.Plain : Consumer ω → Prop where
  | handlers (set : HandlerSet ω) : Plain (.handlers set)
  | repository {β σ : Type} (r : Repository β σ) (place : Place ω (RepositoryState β σ)) :
      Plain (.dispatcher (r.dispatcher place))

theorem deliver_blind {c : Consumer ω} (plain : c.Plain) (signal : Signal) :
    Blind (World.Alike id) (c.deliver signal) := by
  cases plain with
  | handlers set => exact (handle_blind set signal).bind fun _ => .pure _
  | repository r place =>
      refine (within_blind place (r.dispatch_blind signal)).bind fun result => ?_
      rcases result with (_ | _ | _) | _ <;> exact .pure _

namespace Run

variable {alike : World ω → World ω → Prop}

theorem bind_blind {program : Run ω α} {next : α → Run ω β} (first : Blind alike program.run)
    (later : ∀ value, Blind alike (next value).run) : Blind alike (program >>= next).run := by
  change Blind alike (program.run >>= ExceptT.bindCont next)
  refine first.bind fun result => ?_
  cases result with
  | error halt => exact .pure _
  | ok value => exact later value

theorem acting_blind {act : Act ω α} (blind : Blind alike act) : Blind alike (acting act).run := blind.map _

theorem mapM_blind {step : α → Run ω β} {items : List α} (each : ∀ item ∈ items, Blind alike (step item).run) :
    Blind alike (items.mapM step).run := by
  induction items with
  | nil => exact .pure _
  | cons item rest ih =>
      obtain ⟨here, others⟩ := List.forall_mem_cons.mp each
      rw [List.mapM_cons]
      exact bind_blind here fun _ => bind_blind (ih others) fun _ => .pure _

theorem storing_blind (call : StateM ω (Except StorageError α)) : Blind (World.Alike id) (storing call).run := by
  refine bind_blind (acting_blind (outside_plain call)) fun answer => ?_
  cases answer <;> exact .pure _

theorem notifying_blind {observer : Observer ω} {ack : Ack} (blind : Blind alike (observer ack)) :
    Blind alike (notifying observer ack).run := by
  refine bind_blind (acting_blind blind) fun answer => ?_
  cases answer <;> exact .pure _

end Run

/-- Whoever takes acknowledgements takes no notice of the ledger. -/
def Observer.Unaware (place : Place ω SignalLedger) (observer : Observer ω) : Prop :=
  ∀ ack l, Blind (World.Alike (place.set l)) (observer ack)

namespace Observer.Unaware

variable {place : Place ω SignalLedger} {observer : Observer ω}

theorem keeps (unaware : observer.Unaware place) (ack : Ack) (w : World ω) :
    place.set (place.get w.outside) (observer ack w).2.outside = (observer ack w).2.outside := by
  have same : World.Alike (place.set (place.get w.outside)) w w := ⟨(place.set_get _).symm, rfl⟩
  exact (unaware ack _ same).2.outside.symm

theorem get (unaware : observer.Unaware place) (ack : Ack) (w : World ω) :
    place.get (observer ack w).2.outside = place.get w.outside := by
  rw [← unaware.keeps ack w, place.get_set]

theorem blind (unaware : observer.Unaware place) (ack : Ack) : Blind (World.Alike id) (observer ack) := by
  intro u v same
  have seen : World.Alike (place.set (place.get u.outside)) u v :=
    ⟨same.outside.trans (place.set_get _).symm, same.supply⟩
  obtain ⟨value, after⟩ := unaware ack _ seen
  exact ⟨value, after.outside.trans (unaware.keeps ack u), after.supply⟩

/-- It comes to the same whether the ledger is exchanged before or after. -/
theorem exchange (unaware : observer.Unaware place) (ack : Ack) (first last : SignalLedger) (w : World ω) :
    let before := observer ack ⟨w.supply, place.set last w.outside⟩
    let after := observer ack ⟨w.supply, place.set first w.outside⟩
    before.1 = after.1 ∧ World.Alike id before.2 ⟨after.2.supply, place.set last after.2.outside⟩ := by
  intro before after
  have same : World.Alike (place.set last) ⟨w.supply, place.set first w.outside⟩ ⟨w.supply, place.set last w.outside⟩ :=
    ⟨(place.set_set ..).symm, rfl⟩
  obtain ⟨value, later⟩ := unaware ack last same
  exact ⟨value.symm, later.outside.symm, later.supply.symm⟩

end Observer.Unaware

theorem Monitor.observer_blind (m : Monitor) {change : ω → ω} {next : Observer ω} {post : Signal → StateM ω Unit}
    {ack : Ack} (hears : Blind (World.Alike change) (next ack))
    (posts : ∀ event, Blind (fun outside other => other = change outside) (post event)) :
    Blind (World.Alike change) (m.observer next post ack) := by
  refine hears.bind fun answer => ?_
  cases answer with
  | error error => exact .pure _
  | ok done =>
      refine (drawing_blind (systemEvent_blind m ack)).bind fun made => ?_
      cases made with
      | error error => exact .pure _
      | ok event => exact (outside_blind (posts event)).bind fun _ => .pure _

namespace Bus

/-- All consumers are sets of handlers or repositories, and whoever takes system events takes no notice of
the ledger. -/
structure Plain (b : Bus ω) (place : Place ω SignalLedger) : Prop where
  consumers : ∀ {kind type c}, c ∈ (b.registry kind).consumers type → c.Plain
  system : ∀ {post}, b.system = some post →
    ∀ event l, Blind (fun outside other => other = place.set l outside) (post event)

namespace Plain

variable {b : Bus ω} {place : Place ω SignalLedger}

theorem process_blind (plain : b.Plain place) (signal : Signal) : Blind (World.Alike id) (b.process signal).run := by
  refine Run.bind_blind (Run.mapM_blind fun c member => ?_) fun outcomes =>
    Run.bind_blind (Run.storing_blind _) fun _ => .pure _
  refine Run.bind_blind (Run.acting_blind (deliver_blind (plain.consumers member) signal)) fun answer => ?_
  cases answer <;> exact .pure _

theorem publish_blind (plain : b.Plain place) (fuel : Nat) (queue : List Signal) :
    Blind (World.Alike id) (b.publish fuel queue).run := by
  induction fuel generalizing queue with
  | zero => cases queue <;> exact .pure _
  | succ fuel ih =>
      cases queue with
      | nil => exact .pure _
      | cons event waiting =>
          exact Run.bind_blind (Run.storing_blind _) fun _ =>
            Run.bind_blind (plain.process_blind event) fun processed => ih (waiting ++ processed.2)

theorem carryOut_blind (plain : b.Plain place) (fuel : Nat) (signal : Signal) :
    Blind (World.Alike id) (b.carryOut fuel signal).run :=
  Run.bind_blind (plain.process_blind signal) fun processed =>
    Run.bind_blind (plain.publish_blind fuel processed.2) fun _ => .pure _

theorem monitored (plain : b.Plain place) {observer : Observer ω} (unaware : observer.Unaware place)
    (signals : List Signal) : (b.monitored observer signals).Unaware place := by
  intro ack l
  unfold Bus.monitored
  cases system : b.system with
  | none => exact unaware ack l
  | some post => exact (Monitor.of signals).observer_blind (unaware ack l) fun event => plain.system system event l

end Plain

end Bus

end Switchboard
