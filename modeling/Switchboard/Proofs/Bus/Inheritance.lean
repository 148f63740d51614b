import Mathlib.Logic.Relation
import Switchboard.Proofs.Bus.Conduct
import Switchboard.Proofs.Bus.Foresight
import Switchboard.Proofs.Bus.Handling
import Switchboard.Proofs.Repository.Sending
import Switchboard.Proofs.Signal.Inheritance

namespace Switchboard

/-! Whatever is published for a signal, however far from it, is traced back to it and keeps its
circumstances. -/

variable {ω β σ : Type}

theorem Worker.dispatch_inherits {worker : Worker β σ} {key : EntityKey} {command : Signal}
    {w : World (Cached β (Root σ))} {outcome : Outcome}
    (answered : (worker.dispatch key command w).1 = .ok outcome) : outcome.Inherits command := by
  simp only [Worker.dispatch, Computation.bind_apply, Computation.outside_apply] at answered
  rcases read : worker.cache.read key w.outside with ⟨error | root, after⟩
  · rw [read] at answered
    cases answered
  · simp only [read, Computation.bind_apply, Computation.drawing_apply, ExceptT.run, StateT.run] at answered
    rcases dispatched : Root.dispatch worker.model command root w.supply with
      ⟨⟨(error | error | ⟨event, error⟩ | _) | events, next⟩, later⟩
    · rw [dispatched] at answered
      cases answered
    · rw [dispatched] at answered
      cases answered
      exact ofHandlerError_inherits error command later
    · rw [dispatched] at answered
      cases answered
      exact Outcome.failure_inherits _ _
    · rw [dispatched] at answered
      cases answered
    · simp only [dispatched, Computation.bind_apply, Computation.outside_apply] at answered
      rcases written : worker.cache.write next.commit.2 after with ⟨_ | _, stored⟩
      · rw [written] at answered
        cases answered
      · rw [written] at answered
        cases answered
        exact Root.dispatch_inherits (congrArg Prod.fst dispatched)

theorem Repository.dispatch_inherits {r : Repository β σ} {command : Signal} {w : World (RepositoryState β σ)}
    {outcome : Outcome} (answered : (r.dispatch command w).1 = .ok outcome) : outcome.Inherits command := by
  cases target : r.keyOf? command with
  | none =>
      simp only [dispatch, target, Computation.pure_apply] at answered
      cases answered
      exact Outcome.failure_inherits _ _
  | some key =>
      have attempts := dispatch_attempts w target
      rcases sent : r.dispatch command w with ⟨answer, after⟩
      rw [sent] at attempts answered
      subst answered
      obtain ⟨middle, -, ⟨missed, -⟩ | worked⟩ := attempts
      · cases missed
      · exact Worker.dispatch_inherits (congrArg Prod.fst worked)

theorem HandlerSet.handle_inherits (set : HandlerSet ω) (signal : Signal) (w : World ω) :
    (set.handle signal w).1.Inherits signal := by
  cases found : set.method? signal.type with
  | none =>
      simp only [handle, found]
      exact Outcome.failure_inherits _ _
  | some m =>
      simp only [handle, found, Computation.bind_apply, Computation.outside_apply]
      rcases m.invoke signal.payload signal.context w.outside with ⟨error | messages, outside⟩
      · exact ofHandlerError_inherits error signal w.supply
      · exact mapM_inherits (fun message => produced_inherits message signal set.id none) messages w.supply

theorem Consumer.Apart.plain {store : SignalStore ω} {view : store.View} {c : Consumer ω} (apart : c.Apart view) :
    c.Plain := by
  cases apart with
  | handlers set apart => exact .handlers set
  | repository r place apart => exact .repository r place

theorem Consumer.Plain.inherits {c : Consumer ω} (plain : c.Plain) {signal : Signal} {w : World ω}
    {outcome : Outcome} (answered : (c.deliver signal w).1 = .ok outcome) : outcome.Inherits signal := by
  cases plain with
  | handlers set =>
      simp only [deliver, Computation.bind_apply, Computation.pure_apply, Except.ok.injEq] at answered
      rw [← answered]
      exact set.handle_inherits signal w
  | repository r place =>
      simp only [deliver, Repository.dispatcher, Computation.bind_apply, Act.within] at answered
      rcases dispatched : r.dispatch signal ⟨w.supply, place.get w.outside⟩ with ⟨(_ | _ | _) | given, after⟩
      · rw [dispatched] at answered
        cases answered
      · rw [dispatched] at answered
        cases answered
        exact Outcome.failure_inherits _ _
      · rw [dispatched] at answered
        cases answered
        exact Outcome.failure_inherits _ _
      · rw [dispatched] at answered
        cases answered
        exact Repository.dispatch_inherits (congrArg Prod.fst dispatched)

/-- The signal that a call saves or delivers. -/
def Call.subject? : Call → Option Signal
  | .save signal _ _ _ => some signal
  | .deliver _ signal _ => some signal
  | _ => none

theorem Call.subject?_of_delivery {call : Call} {delivery : String × Signal}
    (delivered : call.delivery? = some delivery) : call.subject? = some delivery.2 := by
  cases call <;> cases delivered
  rfl

/-- Whenever a signal is saved or delivered, something is known of it from the calls before. -/
def Knowing (known : List Call → Signal → Prop) : List Call → List Call → Prop
  | _, [] => True
  | past, call :: rest =>
      (∀ signal, call.subject? = some signal → known past signal) ∧ Knowing known (past ++ [call]) rest

/-- The signal was stored and delivered, and the event is among what came of it. -/
structure Produced (calls : List Call) (event parent : Signal) : Prop where
  stored : .save parent .received none (.ok ()) ∈ calls
  reported : ∃ consumer outcome, .deliver consumer parent (.ok outcome) ∈ calls ∧ event ∈ outcome.followUps
  inherits : event.Inherits parent

/-- What is known of a signal stays known, and goes over to the events that are produced from it. -/
structure Heritable (known : List Call → Signal → Prop) : Prop where
  later : ∀ {past more signal}, known past signal → known (past ++ more) signal
  passed : ∀ {past event parent}, known past parent → Produced past event parent → known past event

/-- Outcomes report only events that were produced by what was delivered. -/
def Inherited (calls : List Call) : Prop :=
  ∀ consumer signal outcome, .deliver consumer signal (.ok outcome) ∈ calls → outcome.Inherits signal

section Knowing

variable {known : List Call → Signal → Prop} {past first last before after : List Call} {call : Call} {signal : Signal}

theorem Knowing.append (knowing : Knowing known past first) (others : Knowing known (past ++ first) last) :
    Knowing known past (first ++ last) := by
  induction first generalizing past with
  | nil => simpa using others
  | cons call rest ih => exact ⟨knowing.1, ih knowing.2 (by simpa using others)⟩

theorem Knowing.at (knowing : Knowing known past (before ++ call :: after)) (subject : call.subject? = some signal) :
    known (past ++ before) signal := by
  induction before generalizing past with
  | nil =>
      rw [List.append_nil]
      exact knowing.1 signal subject
  | cons other rest ih =>
      have later := ih knowing.2
      rwa [List.append_assoc] at later

/-- If nothing but one signal is saved and delivered, knowing that one will do. -/
theorem Heritable.knowing (heritable : Heritable known) {calls : List Call}
    (only : ∀ call ∈ calls, ∀ other, call.subject? = some other → other = signal) (own : known past signal) :
    Knowing known past calls := by
  induction calls generalizing past with
  | nil => trivial
  | cons call rest ih =>
      rw [List.forall_mem_cons] at only
      refine ⟨fun other subject => ?_, ih only.2 (heritable.later own)⟩
      rw [only.1 other subject]
      exact own

end Knowing

namespace Bus

variable {b : Bus ω} {signal : Signal} {past calls : List Call} {known : List Call → Signal → Prop}

theorem Processes.only {result : Except Halt (Outcome × List Signal)} (processes : b.Processes signal calls result) :
    ∀ call ∈ calls, ∀ other, call.subject? = some other → other = signal := by
  have delivering {calls : List Call} {result : Except Halt (List Outcome)}
      (each : Each (Delivers signal) ((b.registry signal.kind).consumers signal.type) calls result) :
      ∀ call ∈ calls, ∀ other, call.subject? = some other → other = signal := by
    intro call member other subject
    obtain ⟨c, answer, rfl⟩ := each.delivering call member
    exact (Option.some.inj subject).symm
  have saving {status : SignalStatus} {error : Option ErrorRecord} {answer : Except StorageError Unit} :
      ∀ call ∈ [Call.save signal status error answer], ∀ other, call.subject? = some other → other = signal := by
    intro call member other subject
    obtain rfl := List.mem_singleton.mp member
    exact (Option.some.inj subject).symm
  cases processes with
  | broken delivered => exact delivering delivered
  | unsettled delivered => exact List.forall_mem_append.mpr ⟨delivering delivered, saving⟩
  | settled delivered => exact List.forall_mem_append.mpr ⟨delivering delivered, saving⟩

theorem mem_answered {consumers : List (Consumer ω)} {outcomes : List Outcome} {outcome : Outcome}
    (lengths : outcomes.length = consumers.length) (member : outcome ∈ outcomes) :
    ∃ c : Consumer ω, .deliver c.id signal (.ok outcome) ∈ answered signal consumers outcomes := by
  obtain ⟨n, here, rfl⟩ := List.getElem_of_mem member
  have there : n < consumers.length := lengths ▸ here
  refine ⟨consumers[n], List.mem_iff_getElem.mpr ⟨n, ?_, ?_⟩⟩
  · rw [answered, List.length_zipWith]
    omega
  · simp [answered]

/-- What is to be published next was reported by some consumer of the signal. -/
theorem Processes.reported {outcome : Outcome} {followUps : List Signal}
    (processes : b.Processes signal calls (.ok (outcome, followUps))) :
    ∀ event ∈ followUps, ∃ consumer outcome, .deliver consumer signal (.ok outcome) ∈ calls ∧
      event ∈ outcome.followUps := by
  obtain ⟨outcomes, lengths, rfl, -, rfl⟩ := processes.done
  intro event member
  obtain ⟨outcome, among, reported⟩ := List.mem_flatMap.mp member
  obtain ⟨c, delivered⟩ := mem_answered lengths among
  exact ⟨c.id, outcome, List.mem_append_left _ delivered, reported⟩

theorem Publishes.knowing (heritable : Heritable known) {events : List Signal} {result : Except Halt Unit}
    (publishes : b.Publishes events calls result) (told : Inherited calls) (queued : ∀ event ∈ events, known past event) :
    Knowing known past calls := by
  induction publishes generalizing past with
  | done => trivial
  | unfinished => trivial
  | @unsaved event waiting error =>
      refine ⟨fun other subject => ?_, trivial⟩
      cases subject
      exact queued event List.mem_cons_self
  | @broken event waiting calls halt processed =>
      have own := queued event List.mem_cons_self
      refine ⟨fun other subject => ?_, heritable.knowing processed.only (heritable.later own)⟩
      cases subject
      exact own
  | @next event waiting followUps calls more outcome result processed later ih =>
      have own := queued event List.mem_cons_self
      refine ⟨fun other subject => ?_, (heritable.knowing processed.only (heritable.later own)).append ?_⟩
      · cases subject
        exact own
      · refine ih (fun consumer signal outcome member => told consumer signal outcome (by simp [member])) ?_
        refine List.forall_mem_append.mpr ⟨fun other among => ?_, fun other among => ?_⟩
        · exact heritable.later (heritable.later (queued other (.tail _ among)))
        · obtain ⟨consumer, outcome, delivered, reported⟩ := processed.reported other among
          refine heritable.passed (heritable.later (heritable.later own)) ⟨by simp, ⟨consumer, outcome, by simp [delivered], reported⟩, ?_⟩
          exact told consumer event outcome (by simp [delivered]) other reported

/-- It is enough to know the signal that is carried out, and what it produces at once. -/
theorem CarriesOut.knowing (heritable : Heritable known) {result : Except Halt Outcome}
    (carried : b.CarriesOut signal calls result) (told : Inherited calls) (own : known past signal)
    (handed : ∀ {more event consumer outcome}, .deliver consumer signal (.ok outcome) ∈ more →
      event ∈ outcome.followUps → event.Inherits signal → known (past ++ more) event) :
    Knowing known past calls := by
  have spread {calls more : List Call} {outcome : Outcome} {followUps : List Signal} {result : Except Halt Unit}
      (processed : b.Processes signal calls (.ok (outcome, followUps)))
      (published : b.Publishes followUps more result) (told : Inherited (calls ++ more)) :
      Knowing known past (calls ++ more) := by
    refine (heritable.knowing processed.only own).append (published.knowing heritable ?_ ?_)
    · exact fun consumer signal outcome member => told consumer signal outcome (List.mem_append_right _ member)
    · intro event member
      obtain ⟨consumer, outcome, delivered, reported⟩ := processed.reported event member
      exact handed delivered reported
        (told consumer signal outcome (List.mem_append_left _ delivered) event reported)
  cases carried with
  | broken processed => exact heritable.knowing processed.only own
  | unpublished processed published => exact spread processed published told
  | published processed published => exact spread processed published told

theorem Acknowledges.silent {signals : List Signal} {ack : Ack} {result : Except Halt Unit}
    (told : b.Acknowledges signals ack calls result) : ∀ call ∈ calls, call.subject? = none := by
  cases told <;> simp [Call.subject?]

theorem Steps.inherited {observer : Observer ω} {w later : World ω} (steps : b.Steps observer w calls later)
    (plain : ∀ {kind type c}, c ∈ (b.registry kind).consumers type → c.Plain) : Inherited calls := by
  induction steps with
  | trans first last ihFirst ihLast =>
      intro consumer signal outcome member
      rcases List.mem_append.mp member with member | member
      · exact ihFirst consumer signal outcome member
      · exact ihLast consumer signal outcome member
  | deliver w member signal =>
      intro consumer given outcome among
      simp only [List.mem_singleton, Call.deliver.injEq] at among
      obtain ⟨-, rfl, answered⟩ := among
      exact (plain member).inherits answered.symm
  | _ => simp [Inherited]

end Bus

/-- The event was produced from a signal that was produced from another, and so on, back to the root. -/
def Traces (calls : List Call) : Signal → Signal → Prop := Relation.ReflTransGen (Produced calls)

theorem Produced.mono {calls more : List Call} {event parent : Signal} (produced : Produced calls event parent)
    (among : calls ⊆ more) : Produced more event parent := by
  obtain ⟨consumer, outcome, delivered, reported⟩ := produced.reported
  exact ⟨among produced.stored, ⟨consumer, outcome, among delivered, reported⟩, produced.inherits⟩

theorem Traces.mono {calls more : List Call} {event root : Signal} (traces : Traces calls event root)
    (among : calls ⊆ more) : Traces more event root := by
  induction traces with
  | refl => exact .refl
  | tail _ produced ih => exact ih.tail (produced.mono among)

theorem Traces.akin {calls : List Call} {event root : Signal} (traces : Traces calls event root) :
    event.Akin root := by
  induction traces with
  | refl => exact ⟨rfl, rfl, rfl, rfl, rfl⟩
  | tail _ produced ih => exact ih.trans produced.inherits.toAkin

theorem traces_heritable (root : Signal) : Heritable fun calls event => Traces calls event root where
  later traces := Traces.mono traces (List.subset_append_left ..)
  passed traces produced := .head produced traces

namespace Bus

variable {b : Bus ω} {signal : Signal} {calls : List Call}

/-- All that is saved for an accepted signal traces back to it. -/
theorem Accepts.traces {signals : List Signal} {now : UInt64} {result : Except Halt Outcome}
    (accepts : b.Accepts signals now signal calls result) (told : Inherited calls) :
    Knowing (fun calls event => Traces calls event signal) [] calls := by
  have heritable := traces_heritable signal
  have own {past : List Call} : Traces past signal signal := .refl
  have silent {calls past : List Call} {ack : Ack} {result : Except Halt Unit}
      (acknowledged : b.Acknowledges signals ack calls result) :
      Knowing (fun calls event => Traces calls event signal) past calls := by
    refine heritable.knowing (fun call member other subject => ?_) own
    rw [acknowledged.silent call member] at subject
    cases subject
  have saved {status : SignalStatus} {error : Option ErrorRecord} {answer : Except StorageError Unit} :
      ∀ other, (Call.save signal status error answer).subject? = some other → Traces [] other signal := by
    rintro other subject
    cases subject
    exact own
  cases accepts with
  | unsupported unknown acknowledged => exact silent acknowledged
  | unsaved known admitted cause => exact ⟨saved, trivial⟩
  | refused known found acknowledged => exact ⟨saved, silent acknowledged⟩
  | scheduled known sound delayed acknowledged => exact ⟨saved, silent acknowledged⟩
  | untold known sound due acknowledged => exact ⟨saved, silent acknowledged⟩
  | carried known sound due acknowledged carried =>
      refine ⟨saved, (silent acknowledged).append (carried.knowing heritable ?_ own ?_)⟩
      · exact fun consumer signal outcome member => told consumer signal outcome (by simp [member])
      · intro more event consumer outcome delivered reported inherits
        exact .single ⟨by simp, ⟨consumer, outcome, by simp [delivered], reported⟩, inherits⟩

/-- Every signal that a post stores is the posted one, or an event that was produced from one that
the same post stored before. -/
theorem post_traces (plain : ∀ {kind type c}, c ∈ (b.registry kind).consumers type → c.Plain) (fuel : Nat)
    (observer : Observer ω) (signal : Signal) (w : World ω) :
    ∃ calls, b.recorded.post fuel observer.recorded signal (w.recorded []) =
        ((b.post fuel observer signal w).1, (b.post fuel observer signal w).2.recorded calls) ∧
      ∀ before event status error answer after, calls = before ++ .save event status error answer :: after →
        Traces before event signal ∧ (event = signal ∨ event.kind = .event ∧ event.Akin signal ∧
          event.context.delay = none ∧
          ∃ parent, event.context.origin = some parent.id ∧ Produced before event parent) := by
  obtain ⟨calls, accepts, steps, same⟩ := post_traced (b := b) fuel observer signal w
  refine ⟨calls, same [], ?_⟩
  rintro before event status error answer after rfl
  have traces : Traces before event signal := (accepts.traces (steps.inherited plain)).at rfl
  refine ⟨traces, ?_⟩
  rcases traces.cases_head with rfl | ⟨parent, produced, -⟩
  · exact .inl rfl
  · exact .inr ⟨produced.inherits.kind, traces.akin, produced.inherits.delay, parent,
      produced.inherits.origin, produced⟩

end Bus

end Switchboard
