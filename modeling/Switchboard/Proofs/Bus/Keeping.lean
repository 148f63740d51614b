import Switchboard.Proofs.Bus.Inheritance

namespace Switchboard

/-! What a run leaves alone. Something is seen of the outside, such as the entities of repositories; if no
call that is made changes that, the run does not. -/

variable {ω α β κ : Type} {see : ω → κ}

def Consumer.Keeps (see : ω → κ) (c : Consumer ω) : Prop :=
  ∀ signal w, see (c.deliver signal w).2.outside = see w.outside

def Observer.Keeps (see : ω → κ) (observer : Observer ω) : Prop :=
  ∀ ack w, see (observer ack w).2.outside = see w.outside

namespace Run

def Keeps (see : ω → κ) (program : Run ω α) : Prop := ∀ w, see (program w).2.outside = see w.outside

namespace Keeps

theorem pure (value : α) : Keeps see (Pure.pure value : Run ω α) := fun _ => rfl

theorem bind {program : Run ω α} {next : α → Run ω β} (first : Keeps see program)
    (later : ∀ value, Keeps see (next value)) : Keeps see (program >>= next) := by
  intro w
  have before := first w
  rcases ran : program w with ⟨halt | value, after⟩
  · rw [bind_error ran]
    rwa [ran] at before
  · rw [bind_ok ran]
    rw [ran] at before
    exact (later value after).trans before

theorem mapM {ι : Type} {step : ι → Run ω α} {items : List ι} (each : ∀ item ∈ items, Keeps see (step item)) :
    Keeps see (items.mapM step) := by
  induction items with
  | nil => exact pure []
  | cons item rest ih =>
      obtain ⟨here, others⟩ := List.forall_mem_cons.mp each
      rw [List.mapM_cons]
      exact here.bind fun _ => (ih others).bind fun _ => pure _

theorem storing {call : StateM ω (Except StorageError α)} (kept : ∀ outside, see (call outside).2 = see outside) :
    Keeps see (Run.storing call) := by
  intro w
  rw [storing_apply]
  exact kept w.outside

theorem notifying {observer : Observer ω} (keeps : observer.Keeps see) (ack : Ack) :
    Keeps see (Run.notifying observer ack) := by
  intro w
  rw [notifying_apply]
  exact keeps ack w

end Keeps

end Run

namespace Bus

variable {b : Bus ω} {observer : Observer ω} {signal : Signal} {w after : World ω}

/-- Saving a signal does not change what is seen, and neither does posting a system event. -/
structure Keeps (b : Bus ω) (see : ω → κ) : Prop where
  save : ∀ signal status error outside, see (b.store.save signal status error outside).2 = see outside
  system : ∀ {post}, b.system = some post → ∀ event outside, see (post event outside).2 = see outside

theorem monitored_keeps
    (system : ∀ {post}, b.system = some post → ∀ event outside, see (post event outside).2 = see outside)
    (quiet : observer.Keeps see) (signals : List Signal) : (b.monitored observer signals).Keeps see := by
  intro ack w
  cases watched : b.system with
  | none =>
      have same : b.monitored observer signals = observer := by simp [Bus.monitored, watched]
      rw [same]
      exact quiet ack w
  | some post =>
      have same : b.monitored observer signals = (Monitor.of signals).observer observer post := by
        simp [Bus.monitored, watched]
      rw [same]
      have heard := quiet ack w
      rcases answered : observer ack w with ⟨error | done, after⟩
      · rw [observer_failed answered]
        rwa [answered] at heard
      · rw [answered] at heard
        rcases made : (Monitor.of signals).systemEvent ack after.supply with ⟨error | event, later⟩
        · rw [observer_puzzled answered made]
          exact heard
        · rw [observer_announced answered made]
          exact (system watched event after.outside).trans heard

theorem save_keeps (keeps : b.Keeps see) (signal : Signal) (status : SignalStatus) (error : Option ErrorRecord) :
    Run.Keeps see (b.save signal status error) :=
  .storing (keeps.save signal status error)

theorem save_record {view : b.store.View} {status : SignalStatus} {error : Option ErrorRecord}
    (saved : b.save signal status error w = (.ok (), after)) :
    view.record after.outside =
      Function.update (view.record w.outside) signal.id (some ⟨signal, status, error⟩) := by
  have written := view.save signal status error w.outside
  rw [save, Run.storing_apply] at saved
  rcases stored : b.store.save signal status error w.outside with ⟨cause | done, outside⟩
  · rw [stored] at saved
    cases saved
  · rw [stored] at saved written
    cases saved
    exact written

theorem save_supply (b : Bus ω) (signal : Signal) (status : SignalStatus) (error : Option ErrorRecord) (w : World ω) :
    (b.save signal status error w).2.supply = w.supply := by
  rw [save, Run.storing_apply]

theorem deliver_keeps (quiet : ∀ c ∈ (b.registry signal.kind).consumers signal.type, c.Keeps see) :
    Run.Keeps see (b.deliver signal) := by
  refine .mapM fun c member => .bind (quiet c member signal) fun answer => ?_
  cases answer <;> exact fun _ => rfl

theorem process_keeps (keeps : b.Keeps see)
    (quiet : ∀ c ∈ (b.registry signal.kind).consumers signal.type, c.Keeps see) : Run.Keeps see (b.process signal) :=
  (deliver_keeps quiet).bind fun _ => (save_keeps keeps signal _ _).bind fun _ => .pure _

theorem process_inherits (plain : ∀ {kind type c}, c ∈ (b.registry kind).consumers type → c.Plain)
    {outcome : Outcome} {followUps : List Signal} (processed : b.process signal w = (.ok (outcome, followUps), after)) :
    ∀ event ∈ followUps, event.Inherits signal := by
  have traced : b.Traced .discarding w _ _ _ := process_traced signal w
  obtain ⟨calls, processes, steps, -⟩ := traced
  rw [processed] at processes
  intro event member
  obtain ⟨consumer, outcome, delivered, reported⟩ := processes.reported event member
  exact steps.inherited plain consumer signal outcome delivered event reported

/-- Publishing events is left to the subscribers of events, since nothing but events comes of them. -/
theorem publish_keeps (keeps : b.Keeps see)
    (plain : ∀ {kind type c}, c ∈ (b.registry kind).consumers type → c.Plain)
    (quiet : ∀ {type c}, c ∈ b.events.consumers type → c.Keeps see) (fuel : Nat) {events : List Signal}
    (kinds : ∀ event ∈ events, event.kind = .event) : Run.Keeps see (b.publish fuel events) := by
  induction fuel generalizing events with
  | zero => cases events <;> exact fun _ => rfl
  | succ fuel ih =>
      cases events with
      | nil => exact fun _ => rfl
      | cons event waiting =>
          obtain ⟨own, others⟩ := List.forall_mem_cons.mp kinds
          refine (save_keeps keeps event .received none).bind fun _ w => ?_
          have before : see (b.process event w).2.outside = see w.outside :=
            process_keeps keeps (fun c member => quiet (own ▸ member)) w
          rcases processed : b.process event w with ⟨halt | ⟨outcome, followUps⟩, after⟩
          · rw [Run.bind_error processed]
            rwa [processed] at before
          · rw [Run.bind_ok processed]
            rw [processed] at before
            refine (ih (List.forall_mem_append.mpr ⟨others, fun next member => ?_⟩) after).trans before
            exact (process_inherits plain processed next member).kind

end Bus

end Switchboard
