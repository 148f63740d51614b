import Switchboard.Proofs.Bus.Tracing
import Switchboard.Proofs.Repository.Drawing
import Switchboard.Proofs.Signal.StoreView

namespace Switchboard

/-! What the calls of a bus tell. Consumers leave the records of signals to the bus, and what
they report has new ids; so the records after a run are what its calls have written. -/

variable {ω : Type}

def Call.newIds : Call → List SignalId
  | .deliver _ _ (.ok outcome) => outcome.newIds
  | _ => []

/-- The ids of all signals that consumers have reported. -/
def newIds (calls : List Call) : List SignalId := calls.flatMap Call.newIds

@[simp] theorem newIds_append (first last : List Call) :
    newIds (first ++ last) = newIds first ++ newIds last :=
  List.flatMap_append ..

section Apart

variable {store : SignalStore ω}

/-- A set of handlers or a repository, apart from the signal store. -/
inductive Consumer.Apart (view : store.View) : Consumer ω → Prop where
  | handlers (set : HandlerSet ω)
      (apart : ∀ m ∈ set.methods, ∀ payload context outside,
        view.record (m.invoke payload context outside).2 = view.record outside) :
      Apart view (.handlers set)
  | repository {β σ : Type} (r : Repository β σ) (place : Place ω (RepositoryState β σ))
      (apart : ∀ part outside, view.record (place.set part outside) = view.record outside) :
      Apart view (.dispatcher (r.dispatcher place))

/-- Taking an acknowledgement leaves the signal store alone. -/
def Observer.Apart (view : store.View) (observer : Observer ω) : Prop :=
  ∀ ack w, view.record (observer ack w).2.outside = view.record w.outside ∧
    w.supply.Draws [] (observer ack w).2.supply

/-- Taking an acknowledgement does not change the records of signals otherwise. -/
def Observer.Respects (view : store.View) (change : SignalRecords → SignalRecords → Prop)
    (observer : Observer ω) : Prop :=
  ∀ ack w, change (view.record w.outside) (view.record (observer ack w).2.outside)

variable {view : store.View}

theorem HandlerSet.handle_apart {set : HandlerSet ω}
    (apart : ∀ m ∈ set.methods, ∀ payload context outside,
      view.record (m.invoke payload context outside).2 = view.record outside)
    (signal : Signal) (w : World ω) :
    view.record (set.handle signal w).2.outside = view.record w.outside ∧
      w.supply.Draws (set.handle signal w).1.newIds (set.handle signal w).2.supply := by
  cases found : set.method? signal.type with
  | none =>
      simp only [handle, found]
      exact ⟨rfl, .refl _⟩
  | some m =>
      have kept := apart m (List.mem_of_find?_eq_some found) signal.payload signal.context w.outside
      simp only [handle, found, Computation.bind_apply, Computation.outside_apply]
      rcases invoked : m.invoke signal.payload signal.context w.outside with ⟨error | messages, outside⟩
      · rw [invoked] at kept
        exact ⟨kept, ofHandlerError_draws error signal w.supply⟩
      · rw [invoked] at kept
        refine ⟨kept, ?_⟩
        exact mapM_draws (fun message => produced_draws message signal set.id none) messages w.supply

/-- What the method gives depends on nothing outside, and changes nothing there. -/
def HandlerMethod.Still (m : HandlerMethod ω) : Prop :=
  ∀ payload context, ∃ result, ∀ outside, m.invoke payload context outside = (result, outside)

theorem HandlerMethod.still_on {μ : Type} (t : MessageType μ) (give : μ → HandlerResult) :
    (HandlerMethod.on t fun message => return give message : HandlerMethod ω).Still := by
  intro payload context
  simp only [on, reading]
  cases payload.decode t.decode with
  | ok message => exact ⟨_, fun _ => rfl⟩
  | error error => exact ⟨_, fun _ => rfl⟩

theorem Consumer.Apart.of_still {set : HandlerSet ω} (still : ∀ m ∈ set.methods, m.Still) :
    (Consumer.handlers set).Apart view := by
  refine .handlers set fun m member payload context outside => ?_
  obtain ⟨result, given⟩ := still m member payload context
  rw [given]

theorem Consumer.Apart.deliver {c : Consumer ω} (apart : c.Apart view) (signal : Signal) (w : World ω) :
    view.record (c.deliver signal w).2.outside = view.record w.outside ∧
      w.supply.Yields (c.deliver signal w).1 (c.deliver signal w).2.supply := by
  cases apart with
  | handlers set apart =>
      obtain ⟨kept, draws⟩ := set.handle_apart apart signal w
      exact ⟨kept, .of_ok draws⟩
  | repository r place apart =>
      have yields := r.dispatch_yields signal ⟨w.supply, place.get w.outside⟩
      have kept := apart (r.dispatch signal ⟨w.supply, place.get w.outside⟩).2.outside w.outside
      simp only [Consumer.deliver, Repository.dispatcher, Computation.bind_apply, Act.within]
      rcases dispatched : r.dispatch signal ⟨w.supply, place.get w.outside⟩ with ⟨error | outcome, after⟩
      · rw [dispatched] at yields kept
        cases error with
        | configuration error => exact ⟨kept, .of_error yields.1⟩
        | actorGone => exact ⟨kept, .of_ok yields.1⟩
        | storage error => exact ⟨kept, .of_ok yields.1⟩
      · rw [dispatched] at yields kept
        exact ⟨kept, .of_ok (yields.2 rfl)⟩

end Apart

namespace Bus

variable {b : Bus ω} {observer : Observer ω} {view : b.store.View} {w later : World ω} {calls : List Call}

/-- All consumers are sets of handlers or repositories, and neither they nor whoever takes
system events touch the signal store. -/
structure Apart (b : Bus ω) (view : b.store.View) : Prop where
  consumers : ∀ {kind type c}, c ∈ (b.registry kind).consumers type → c.Apart view
  system : ∀ {post}, b.system = some post →
    ∀ event outside, view.record (post event outside).2 = view.record outside

/-- Neither the consumers nor whoever takes system events change the records of signals otherwise. -/
structure Respects (b : Bus ω) (view : b.store.View) (change : SignalRecords → SignalRecords → Prop) : Prop where
  consumers : ∀ {kind type c}, c ∈ (b.registry kind).consumers type → ∀ signal w,
    change (view.record w.outside) (view.record (c.deliver signal w).2.outside)
  system : ∀ {post}, b.system = some post → ∀ event outside,
    change (view.record outside) (view.record (post event outside).2)

theorem Respects.mono {change more : SignalRecords → SignalRecords → Prop} (respects : b.Respects view change)
    (wider : ∀ {before after}, change before after → more before after) : b.Respects view more :=
  ⟨fun member signal w => wider (respects.consumers member signal w),
    fun system event outside => wider (respects.system system event outside)⟩

theorem Apart.respects (apart : b.Apart view) : b.Respects view Eq :=
  ⟨fun member signal w => ((apart.consumers member).deliver signal w).1.symm,
    fun system event outside => (apart.system system event outside).symm⟩

/-- What holds of the records at first, and is kept by every call and by whatever else is done to
them, holds in the end. -/
theorem Steps.along {change : SignalRecords → SignalRecords → Prop} (steps : b.Steps observer w calls later)
    (keeps : b.Respects view change) (quiet : observer.Respects view change)
    (invariant : List Call → SignalRecords → Prop)
    (written : ∀ {calls records} (call : Call), call.Fits records → invariant calls records →
      invariant (calls ++ [call]) (call.write records))
    (changed : ∀ {calls records others}, change records others → invariant calls records → invariant calls others)
    (start : invariant [] (view.record w.outside)) : invariant calls (view.record later.outside) := by
  suffices onward : ∀ before, invariant before (view.record w.outside) →
      invariant (before ++ calls) (view.record later.outside) from onward [] start
  clear start
  induction steps with
  | refl w => exact fun before start => by rwa [List.append_nil]
  | trans first last ihFirst ihLast =>
      intro before start
      rw [← List.append_assoc]
      exact ihLast _ (ihFirst _ start)
  | draw w draws => exact fun before start => by rwa [List.append_nil]
  | save w signal status error =>
      rw [view.save]
      exact fun before start => written _ trivial start
  | scheduled w =>
      rw [view.listed]
      exact fun before start => written (.scheduled _) trivial start
  | claim w id =>
      rw [view.claim]
      exact fun before start => written _ (view.claimed id _) start
  | deliver w member signal =>
      exact fun before start => written (.deliver ..) trivial (changed (keeps.consumers member signal w) start)
  | acknowledge w ack =>
      exact fun before start => written (.acknowledge ..) trivial (changed (quiet ack w) start)
  | announce w system event =>
      exact fun before start => written (.announce _) trivial (changed (keeps.system system event _) start)

/-- If nobody else changes the records of signals, they are what the calls have written. -/
theorem Steps.records (steps : b.Steps observer w calls later) (discreet : b.Respects view Eq)
    (quiet : observer.Respects view Eq) :
    view.record later.outside = (view.record w.outside).after calls ∧ (view.record w.outside).Serve calls := by
  refine steps.along discreet quiet (fun calls records =>
    records = (view.record w.outside).after calls ∧ (view.record w.outside).Serve calls) ?_ ?_ ⟨rfl, trivial⟩
  · rintro calls records call fits ⟨rfl, served⟩
    rw [SignalRecords.after_append, SignalRecords.serve_append]
    exact ⟨rfl, served, fits, trivial⟩
  · rintro calls records _ rfl kept
    exact kept

theorem Steps.draws (steps : b.Steps observer w calls later) (apart : b.Apart view)
    (discreet : observer.Apart view) : w.supply.Draws (newIds calls) later.supply := by
  induction steps with
  | trans first last ihFirst ihLast =>
      rw [newIds_append]
      exact ihFirst.trans ihLast
  | draw w draws => exact draws
  | @deliver w kind type c member signal =>
      obtain ⟨-, yields⟩ := (apart.consumers member).deliver signal w
      rw [newIds, List.flatMap_singleton]
      rcases delivered : c.deliver signal w with ⟨error | outcome, after⟩
      · rw [delivered] at yields
        exact yields.1
      · rw [delivered] at yields
        exact yields.2 rfl
  | acknowledge w ack => exact (discreet ack w).2
  | _ => exact .refl _

/-- What calls tell of the way from one world to another. -/
structure Progress (view : b.store.View) (w : World ω) (calls : List Call) (later : World ω) : Prop where
  records : view.record later.outside = (view.record w.outside).after calls
  served : (view.record w.outside).Serve calls
  draws : w.supply.Draws (newIds calls) later.supply

theorem Steps.progress (steps : b.Steps observer w calls later) (apart : b.Apart view)
    (discreet : observer.Apart view) : b.Progress view w calls later := by
  obtain ⟨records, served⟩ := steps.records apart.respects fun ack w => (discreet ack w).1.symm
  exact ⟨records, served, steps.draws apart discreet⟩

end Bus

end Switchboard
