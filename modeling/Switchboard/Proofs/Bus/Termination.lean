import Mathlib.Data.Multiset.DershowitzManna
import Switchboard.Proofs.Bus.LevelOrder
import Switchboard.Proofs.Bus.Stranding
import Switchboard.Proofs.Sample.Square

namespace Switchboard

/-! A bus comes to rest if its subscribers never answer each other in a circle. More events may wait after
every step, but those that wait are lower and lower. -/

variable {ω α β ρ : Type}

namespace Run

/-- The run takes on all that there is to publish if it may take on enough, and any more makes no
difference. -/
def Terminates (program : Nat → Run ω α) (w : World ω) : Prop :=
  ∃ enough result after, result ≠ .error .unfinished ∧ ∀ fuel, enough ≤ fuel → program fuel w = (result, after)

namespace Terminates

variable {w : World ω}

theorem of_finished {program : Run ω α} (finished : (program w).1 ≠ .error .unfinished) :
    Terminates (fun _ => program) w :=
  ⟨0, _, _, finished, fun _ _ => rfl⟩

theorem pure (value : α) : Terminates (fun _ => (Pure.pure value : Run ω α)) w := of_finished nofun

theorem storing (call : StateM ω (Except StorageError α)) : Terminates (fun _ => Run.storing call) w := by
  refine of_finished ?_
  rw [storing_apply]
  cases (call w.outside).1 <;> nofun

theorem notifying (observer : Observer ω) (ack : Ack) : Terminates (fun _ => Run.notifying observer ack) w := by
  refine of_finished ?_
  rw [notifying_apply]
  cases (observer ack w).1 <;> nofun

theorem bind {program : Nat → Run ω α} {next : Nat → α → Run ω β} (first : Terminates program w)
    (later : ∀ {fuel value after}, program fuel w = (.ok value, after) →
      Terminates (fun fuel => next fuel value) after) :
    Terminates (fun fuel => program fuel >>= next fuel) w := by
  obtain ⟨enough, result, middle, finished, comes⟩ := first
  cases result with
  | error halt =>
      refine ⟨enough, .error halt, middle, fun same => finished (by cases same; rfl), fun fuel above => ?_⟩
      exact bind_error (comes fuel above)
  | ok value =>
      obtain ⟨more, result, after, finished, goes⟩ := later (comes enough le_rfl)
      refine ⟨max enough more, result, after, finished, fun fuel above => ?_⟩
      have both := max_le_iff.mp above
      exact (bind_ok (comes fuel both.1)).trans (goes fuel both.2)

theorem succ {program : Nat → Run ω α} (later : Terminates (fun fuel => program (fuel + 1)) w) :
    Terminates program w := by
  obtain ⟨enough, result, after, finished, comes⟩ := later
  refine ⟨enough + 1, result, after, finished, fun fuel above => ?_⟩
  obtain ⟨rest, rfl⟩ := Nat.exists_eq_add_of_le above
  rw [Nat.add_right_comm]
  exact comes (enough + rest) (Nat.le_add_right ..)

theorem mapM {step : Nat → α → Run ω β} (each : ∀ item w, Terminates (fun fuel => step fuel item) w)
    (items : List α) (w : World ω) : Terminates (fun fuel => items.mapM (step fuel)) w := by
  induction items generalizing w with
  | nil => exact pure []
  | cons item rest ih =>
      simp only [List.mapM_cons]
      exact (each item w).bind fun _ => (ih _).bind fun _ => pure _

theorem foldlM {step : Nat → β → α → Run ω β} (each : ∀ value item w, Terminates (fun fuel => step fuel value item) w)
    (items : List α) (value : β) (w : World ω) : Terminates (fun fuel => items.foldlM (step fuel) value) w := by
  induction items generalizing value w with
  | nil => exact pure value
  | cons item rest ih =>
      simp only [List.foldlM_cons]
      exact (each value item w).bind fun _ => ih _ _

end Terminates

end Run

/-- The messages that go out as events for what a handler returns. -/
def HandlerResult.announced : HandlerResult → List EventMessage
  | .ok messages => messages
  | .error (.rejected rejection) => [rejection.eventMessage]
  | .error (.failed _ _) => []

theorem HandlerMethod.announced_reading {μ : Type} {t : MessageType μ} {takesContext : Bool}
    {handle : μ → SignalContext → StateM ω HandlerResult} {payload : Json} {context : SignalContext} {outside : ω}
    {message : EventMessage}
    (announced : message ∈ HandlerResult.announced ((reading t takesContext handle).invoke payload context outside).1) :
    ∃ read, message ∈ HandlerResult.announced (handle read context outside).1 := by
  simp only [reading] at announced
  cases decoded : payload.decode t.decode with
  | ok read =>
      rw [decoded] at announced
      exact ⟨read, announced⟩
  | error error =>
      rw [decoded] at announced
      cases announced

theorem mapM_produced (origin : Signal) (producer : String) (messages : List EventMessage) (supply : Supply) :
    (messages.mapM (Signal.produced · origin producer none) supply).1.map (·.eventMessage) = messages := by
  induction messages generalizing supply with
  | nil => rfl
  | cons message rest ih =>
      simp only [List.mapM_cons, Computation.bind_apply, Computation.pure_apply, List.map_cons]
      exact congrArg (message :: ·) (ih _)

theorem HandlerSet.handle_announces {set : HandlerSet ω} {signal : Signal} {m : HandlerMethod ω}
    (found : set.method? signal.type = some m) (w : World ω) :
    (set.handle signal w).1.followUps.map (·.eventMessage) =
      HandlerResult.announced (m.invoke signal.payload signal.context w.outside).1 := by
  simp only [handle, found, Computation.bind_apply, Computation.outside_apply]
  rcases m.invoke signal.payload signal.context w.outside with ⟨(rejection | ⟨type, message⟩) | messages, outside⟩
  · rfl
  · rfl
  · exact mapM_produced signal set.id messages w.supply

namespace Bus

variable {b : Bus ω} {signal : Signal} {w : World ω}

/-- Whatever a subscriber can come to, it gives only events that are lower than the one it was given. -/
def Descends [LT ρ] (b : Bus ω) (rank : String → ρ) : Prop :=
  ∀ {signal c outcome}, signal.kind = .event → c ∈ b.events.consumers signal.type → c.Gives signal outcome →
    ∀ next ∈ outcome.followUps, next.kind = .event ∧ rank next.type < rank signal.type

/-- Nothing but events comes of commands. An outcome has nothing else to report. -/
def Eventful (b : Bus ω) : Prop :=
  ∀ {signal c outcome}, c ∈ b.commands.consumers signal.type → c.Gives signal outcome →
    ∀ next ∈ outcome.followUps, next.kind = .event

/-- Sets of handlers and repositories report nothing else. -/
theorem eventful_of_plain (plain : ∀ {type c}, c ∈ b.commands.consumers type → c.Plain) : b.Eventful := by
  rintro signal c outcome member ⟨w, answered⟩ next among
  exact ((plain member).inherits answered next among).kind

/-- If all subscribers are sets of handlers, it is enough to look at their methods. -/
theorem descends_of_methods [LT ρ] {rank : String → ρ}
    (lower : ∀ {type c}, c ∈ b.events.consumers type → ∃ set, c = .handlers set ∧ ∀ m ∈ set.methods,
      ∀ payload context outside, ∀ message ∈ HandlerResult.announced (m.invoke payload context outside).1,
        rank message.type < rank m.message.name) : b.Descends rank := by
  rintro signal c outcome - member ⟨w, answered⟩ next among
  obtain ⟨set, rfl, lower⟩ := lower member
  have given : (set.handle signal w).1 = outcome := by
    simpa only [Consumer.deliver, Computation.bind_apply, Computation.pure_apply, Except.ok.injEq] using answered
  subst given
  refine ⟨(set.handle_inherits signal w next among).kind, ?_⟩
  cases found : set.method? signal.type with
  | none =>
      simp only [HandlerSet.handle, found] at among
      cases among
  | some m =>
      have named : m.message.name = signal.type := by simpa using List.find?_some found
      have announced := List.mem_map_of_mem (f := Signal.eventMessage) among
      rw [HandlerSet.handle_announces found] at announced
      rw [← named]
      exact lower m (List.mem_of_find?_eq_some found) _ _ _ next.eventMessage announced

theorem process_given {outcome : Outcome} {followUps : List Signal} {after : World ω}
    (processed : b.process signal w = (.ok (outcome, followUps), after)) {next : Signal} (among : next ∈ followUps) :
    ∃ c ∈ (b.registry signal.kind).consumers signal.type, ∃ own, c.Gives signal own ∧ next ∈ own.followUps := by
  have traced : b.Traced .discarding w _ _ _ := process_gives signal w
  obtain ⟨calls, shaped, -⟩ := traced
  rw [processed] at shaped
  obtain ⟨outcomes, gives, -, rfl⟩ := shaped outcome followUps rfl
  obtain ⟨own, reported, among⟩ := List.mem_flatMap.mp among
  obtain ⟨same, each⟩ := List.forall₂_iff_get.mp gives
  obtain ⟨⟨i, within⟩, rfl⟩ := List.get_of_mem reported
  exact ⟨_, List.get_mem _ ⟨i, same ▸ within⟩, _, each i _ within, among⟩

theorem process_finished (b : Bus ω) (signal : Signal) (w : World ω) : (b.process signal w).1 ≠ .error .unfinished := by
  have traced : b.Traced .discarding w _ _ _ := process_traced signal w
  obtain ⟨calls, processed, -⟩ := traced
  intro halted
  rw [halted] at processed
  obtain ⟨_, ⟨⟩⟩ := processed.halted

section Descending

variable [Preorder ρ] {rank : String → ρ}

/-- How high the events of a queue are. -/
def ranks (rank : String → ρ) (queue : List Signal) : Multiset ρ := queue.map fun event => rank event.type

/-- An event gives way to any number of events that are lower. -/
theorem ranks_lt (event : Signal) (waiting : List Signal) {followUps : List Signal}
    (lower : ∀ next ∈ followUps, rank next.type < rank event.type) :
    (ranks rank (waiting ++ followUps)).IsDershowitzMannaLT (ranks rank (event :: waiting)) := by
  refine ⟨ranks rank waiting, ranks rank followUps, {rank event.type}, Multiset.singleton_ne_zero _, ?_, ?_, ?_⟩
  · simp only [ranks, List.map_append, Multiset.coe_add]
  · exact Multiset.add_comm {rank event.type} (ranks rank waiting)
  · intro low member
    obtain ⟨next, among, rfl⟩ := List.mem_map.mp member
    exact ⟨_, Multiset.mem_singleton_self _, lower next among⟩

variable [WellFoundedLT ρ]

theorem publish_terminates (descends : b.Descends rank) {events : List Signal}
    (kinds : ∀ event ∈ events, event.kind = .event) (w : World ω) :
    Run.Terminates (fun fuel => b.publish fuel events) w := by
  -- no count of the queue goes down, but the multiset of its ranks does
  generalize measured : ranks rank events = height
  induction height using (Multiset.wellFounded_isDershowitzMannaLT (α := ρ)).induction generalizing events w with
  | h height ih =>
    subst measured
    cases events with
    | nil => exact .succ (.pure ())
    | cons event waiting =>
        obtain ⟨own, others⟩ := List.forall_mem_cons.mp kinds
        refine .succ (.bind (.storing _) fun _ => .bind (.of_finished (b.process_finished event _)) ?_)
        rintro - ⟨outcome, followUps⟩ after processed
        have lower : ∀ next ∈ followUps, next.kind = .event ∧ rank next.type < rank event.type := by
          intro next among
          obtain ⟨c, member, outcome, gives, reported⟩ := process_given processed among
          rw [own] at member
          exact descends own member gives next reported
        refine ih _ (ranks_lt event waiting fun next among => (lower next among).2) ?_ after rfl
        exact List.forall_mem_append.mpr ⟨others, fun next among => (lower next among).1⟩

theorem carryOut_terminates (descends : b.Descends rank) (eventful : b.Eventful) (signal : Signal) (w : World ω) :
    Run.Terminates (fun fuel => b.carryOut fuel signal) w := by
  refine .bind (.of_finished (b.process_finished signal w)) ?_
  rintro - ⟨outcome, followUps⟩ after processed
  refine .bind (publish_terminates descends (fun next among => ?_) after) fun _ => .pure outcome
  obtain ⟨c, member, own, gives, reported⟩ := process_given processed among
  cases kind : signal.kind with
  | command =>
      rw [kind] at member
      exact eventful member gives next reported
  | event =>
      rw [kind] at member
      exact (descends kind member gives next reported).1

theorem accept_terminates (descends : b.Descends rank) (eventful : b.Eventful) (observer : Observer ω)
    (signal : Signal) (w : World ω) : Run.Terminates (fun fuel => b.accept fuel observer signal) w := by
  unfold accept
  cases (b.registry signal.kind).class? signal.type with
  | none => exact .bind (.notifying _ _) fun _ => .pure _
  | some message =>
      dsimp only
      cases b.defect? signal message with
      | some defect => exact .bind (.storing _) fun _ => .bind (.notifying _ _) fun _ => .pure _
      | none =>
          refine .bind (.of_finished nofun) fun _ => ?_
          split
          · exact .bind (.storing _) fun _ => .bind (.notifying _ _) fun _ => .pure _
          · exact .bind (.storing _) fun _ => .bind (.notifying _ _) fun _ =>
              carryOut_terminates descends eventful signal _

theorem sweepSignal_terminates (descends : b.Descends rank) (eventful : b.Eventful) (now : UInt64)
    (report : SweepReport) (signal : Signal) (w : World ω) :
    Run.Terminates (fun fuel => b.sweepSignal fuel now report signal) w := by
  unfold sweepSignal
  split
  · exact .pure _
  · refine .bind (.storing _) fun {_ claimed _} _ => ?_
    cases claimed with
    | false => exact .pure _
    | true => exact .bind (.bind (carryOut_terminates descends eventful signal _) fun _ => .pure _) fun _ => .pure _

/-- On a bus whose subscribers answer no event with one that is as high or higher, every publication of
events comes to its end, however many events it takes. If nothing but events comes of commands either,
so does everything that is posted or swept. -/
theorem comes_to_rest (descends : b.Descends rank) :
    (∀ events, (∀ event ∈ events, event.kind = .event) → ∀ w,
      Run.Terminates (fun fuel => b.publish fuel events) w) ∧
    (b.Eventful → ∀ w,
      (∀ observer signal, Run.Terminates (fun fuel => b.post fuel observer signal) w) ∧
      (∀ observer signals, Run.Terminates (fun fuel => b.postAll fuel observer signals) w) ∧
      (∀ now, Run.Terminates (fun fuel => b.sweepDue fuel now) w) ∧
      Run.Terminates b.sweep w) := by
  refine ⟨fun events kinds w => publish_terminates descends kinds w, fun eventful w => ?_⟩
  have swept (now : UInt64) (w : World ω) : Run.Terminates (fun fuel => b.sweepDue fuel now) w := by
    refine .bind (.storing _) fun _ => ?_
    exact .foldlM (sweepSignal_terminates descends eventful now) _ _ _
  refine ⟨fun observer signal => accept_terminates descends eventful _ signal w, fun observer signals => ?_,
    fun now => swept now w, ?_⟩
  · exact .mapM (accept_terminates descends eventful _) signals w
  · exact .bind (.of_finished nofun) fun _ => swept _ _

end Descending

open Sample Square in
/-- Whoever has an account opened hears of it and of two deposits, and that is all. -/
theorem comes_to_rest_square :
    let rank : String → Nat := fun type => if type = AccountOpened.type.name then 1 else 0
    let asked := Branch.opening "a"
    staffed.Descends rank ∧ (∀ event ∈ [opening], event.kind = .event) ∧ staffed.Eventful ∧
      Run.Terminates (fun fuel => staffed.publish fuel [opening]) Square.opened ∧
      Run.Terminates (fun fuel => staffed.post fuel .discarding asked) Square.opened ∧
      Run.Terminates staffed.sweep Square.opened ∧
      (staffed.post 2 .discarding asked Square.opened).1 = .error .unfinished := by
  intro rank asked
  have descends : staffed.Descends rank := by
    refine descends_of_methods fun member => ?_
    obtain ⟨set, among, rfl⟩ := subscribers member
    refine ⟨set, rfl, ?_⟩
    simp only [audience, List.mem_cons, List.not_mem_nil, or_false] at among
    rcases among with rfl | rfl | rfl
    all_goals
      refine List.forall_mem_singleton.mpr fun payload context outside message announced => ?_
      obtain ⟨read, announced⟩ := HandlerMethod.announced_reading announced
    · have deposits : message.type = deposited.name := by
        rcases List.mem_pair.mp announced with rfl | rfl <;> rfl
      rw [deposits]
      decide
    · cases announced
    · cases announced
  have kinds : ∀ event ∈ [opening], event.kind = .event := by decide +kernel
  have eventful : staffed.Eventful := by
    refine eventful_of_plain fun {type c} member => ?_
    obtain ⟨⟨⟩⟩ | ⟨-, rfl⟩ := Registry.mem_consumers_subscribe.mp member
    exact .handlers clerk
  obtain ⟨published, others⟩ := comes_to_rest descends
  obtain ⟨posted, -, -, swept⟩ := others eventful Square.opened
  exact ⟨descends, kinds, eventful, published _ kinds _, posted _ _, swept, by decide +kernel⟩

end Bus

end Switchboard
