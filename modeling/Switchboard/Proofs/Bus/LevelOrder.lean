import Switchboard.Proofs.Aggregate.Likeness
import Switchboard.Proofs.Bus.Settlement
import Switchboard.Proofs.Forest
import Switchboard.Proofs.Sample.Square

namespace Switchboard

/-! Publishing goes level by level: through the events that are to be published, through those that
their consumers give, and so on. No event is left out and none is taken twice. -/

variable {ω α β : Type}

namespace Consumer

/-- The consumer can come to this outcome of the signal. -/
def Gives (c : Consumer ω) (signal : Signal) (outcome : Outcome) : Prop := ∃ w, (c.deliver signal w).1 = .ok outcome

/-- What the consumer gives depends on nothing but the signal, save for ids and times. -/
def Steady (c : Consumer ω) : Prop :=
  ∀ {signal first last}, c.Gives signal first → c.Gives signal last → first.Like last

theorem mapM_like {make : α → StateM Supply Signal} (like : ∀ item u v, (make item u).1.Like (make item v).1)
    (items : List α) (u v : Supply) : List.Forall₂ Signal.Like (items.mapM make u).1 (items.mapM make v).1 := by
  induction items generalizing u v with
  | nil => exact .nil
  | cons item rest ih =>
      simp only [List.mapM_cons]
      exact .cons (like item u v) (ih _ _)

theorem Steady.of_still {set : HandlerSet ω} (still : ∀ m ∈ set.methods, m.Still) :
    (Consumer.handlers set).Steady := by
  rintro signal first last ⟨u, once⟩ ⟨v, again⟩
  simp only [deliver, HandlerSet.handle] at once again
  cases found : set.method? signal.type with
  | none =>
      simp only [found] at once again
      cases once
      cases again
      exact .failure _
  | some m =>
      obtain ⟨result, given⟩ := still m (List.mem_of_find?_eq_some found) signal.payload signal.context
      simp only [found, Computation.bind_apply, Computation.outside_apply, given] at once again
      cases result with
      | error error =>
          cases once
          cases again
          exact ofHandlerError_like error signal _ _
      | ok messages =>
          cases once
          cases again
          exact .success (mapM_like (fun message => produced_like message signal set.id none) messages _ _)

end Consumer

/-- A signal that was handled, with the outcomes of its consumers. -/
structure Handled where
  signal : Signal
  outcomes : List Outcome

namespace Handled

def outcome (h : Handled) : Outcome := Bus.settledOutcome h.signal h.outcomes

/-- What is published next, be the outcome in all a failure or not. -/
def followUps (h : Handled) : List Signal := h.outcomes.flatMap Outcome.followUps

def record (h : Handled) : SignalRecord := ⟨h.signal, h.outcome.status, Bus.settledError h.outcome⟩

end Handled

/-- The signals that are saved as received, in their order. -/
def received (calls : List Call) : List Signal :=
  calls.filterMap fun
    | .save signal .received _ (.ok ()) => some signal
    | _ => none

namespace SignalRecords

variable {known records others : SignalRecords}

/-- Whatever is recorded on the one side is recorded on the other. -/
def Within (known records : SignalRecords) : Prop := ∀ id r, known id = some r → records id = some r

theorem Within.trans (first : known.Within records) (last : records.Within others) : known.Within others :=
  fun id r found => last id r (first id r found)

theorem Within.write (within : known.Within records) (call : Call) :
    (call.write known).Within (call.write records) := by
  intro id r found
  rcases call.write_cases id with same | ⟨signal, status, error, -, saved⟩ | claimed
  · rw [same] at found ⊢
    exact within id r found
  · rw [saved] at found ⊢
    exact found
  · rw [claimed, Option.map_eq_some_iff] at found ⊢
    obtain ⟨before, found, rfl⟩ := found
    exact ⟨before, within id before found, rfl⟩

end SignalRecords

namespace Run

variable {step : α → Run ω β} {items : List α} {w after : World ω} {values : List β}

/-- A relation that every step extends holds of the whole run. -/
theorem mapM_along (rel : List α → World ω → List β → World ω → Prop) (nothing : ∀ w, rel [] w [] w)
    (next : ∀ {item rest w middle value values after}, step item w = (.ok value, middle) →
      rel rest middle values after → rel (item :: rest) w (value :: values) after)
    (ran : items.mapM step w = (.ok values, after)) : rel items w values after := by
  induction items generalizing w values with
  | nil =>
      cases ran
      exact nothing _
  | cons item rest ih =>
      rw [List.mapM_cons] at ran
      obtain ⟨value, middle, first, ran⟩ := of_bind_ok ran
      obtain ⟨others, last, later, ran⟩ := of_bind_ok ran
      cases ran
      exact next first (ih later)

theorem mapM_ok (ran : items.mapM step w = (.ok values, after)) :
    List.Forall₂ (fun item value => ∃ w, (step item w).1 = .ok value) items values :=
  mapM_along (fun items _ values _ => List.Forall₂ (fun item value => ∃ w, (step item w).1 = .ok value) items values)
    (fun _ => .nil) (fun first later => .cons ⟨_, congrArg Prod.fst first⟩ later) ran

end Run

namespace Bus

variable {b : Bus ω} {observer : Observer ω} {w : World ω}

/-- The consumers of the signal can come to these outcomes. -/
def Gives (b : Bus ω) (h : Handled) : Prop :=
  List.Forall₂ (fun c outcome => c.Gives h.signal outcome)
    ((b.registry h.signal.kind).consumers h.signal.type) h.outcomes

/-- The calls by which an event is published. -/
def publication (b : Bus ω) (h : Handled) : List Call :=
  .save h.signal .received none (.ok ()) :: b.handled h.signal h.outcomes

theorem gives_like {signal : Signal} {consumers : List (Consumer ω)} {first last : List Outcome}
    (steady : ∀ c ∈ consumers, c.Steady)
    (once : List.Forall₂ (fun c outcome => c.Gives signal outcome) consumers first)
    (again : List.Forall₂ (fun c outcome => c.Gives signal outcome) consumers last) :
    List.Forall₂ Outcome.Like first last := by
  induction once generalizing last with
  | nil =>
      cases again
      exact .nil
  | cons here later ih =>
      obtain ⟨own, others⟩ := List.forall_mem_cons.mp steady
      cases again with
      | cons there rest => exact .cons (own here there) (ih others rest)

/-- An event without subscribers is done at once. -/
theorem Gives.unheard {h : Handled} (gives : b.Gives h) (event : h.signal.kind = .event)
    (nobody : b.recipients h.signal = []) : h.record = ⟨h.signal, .ok, none⟩ := by
  have silent : h.outcomes = [] := by
    unfold Gives at gives
    rw [List.map_eq_nil_iff.mp nobody] at gives
    exact List.forall₂_nil_left_iff.mp gives
  have settled : h.outcome = .success [] := by
    rw [Handled.outcome, silent, settledOutcome_eq_merge (.inl event)]
    rfl
  rw [Handled.record, settled]
  rfl

theorem deliver_gives {signal : Signal} {outcomes : List Outcome} {after : World ω}
    (delivered : b.deliver signal w = (.ok outcomes, after)) : b.Gives ⟨signal, outcomes⟩ := by
  refine (Run.mapM_ok delivered).imp ?_
  rintro c outcome ⟨w, answered⟩
  refine ⟨w, ?_⟩
  rw [Run.bind_ok (Run.acting_apply _ w)] at answered
  rcases given : (c.deliver signal w).1 with error | outcome
  · rw [given] at answered
    cases answered
  · rw [given] at answered
    cases answered
    rfl

/-- The events of a queue are handled one after another, and what comes of each waits behind the
others. -/
inductive Spreads (b : Bus ω) : List Signal → List Handled → Prop where
  | done : Spreads b [] []
  | next {h : Handled} {waiting : List Signal} {later : List Handled} (gives : b.Gives h)
      (spreads : Spreads b (waiting ++ h.followUps) later) : Spreads b (h.signal :: waiting) (h :: later)

/-- Every event of the tree was handled, and below it stands what came of it. -/
inductive Grown (b : Bus ω) : Tree Handled → Prop where
  | node {h : Handled} {children : List (Tree Handled)} (gives : b.Gives h)
      (next : children.map (·.value.signal) = h.followUps) (grown : ∀ child ∈ children, Grown b child) :
      Grown b (.node h children)

theorem Spreads.gives {queue : List Signal} {handled : List Handled} (spreads : b.Spreads queue handled) :
    ∀ h ∈ handled, b.Gives h := by
  induction spreads with
  | done => simp
  | next gives spreads ih => exact List.forall_mem_cons.mpr ⟨gives, ih⟩

theorem Spreads.forest {queue : List Signal} {handled : List Handled} (spreads : b.Spreads queue handled) :
    ∃ forest, forest.map (·.value.signal) = queue ∧ (∀ tree ∈ forest, b.Grown tree) ∧
      Tree.levelOrder forest = handled := by
  induction spreads with
  | done => exact ⟨[], rfl, by simp, by simp [Tree.levelOrder]⟩
  | @next h waiting later gives spreads ih =>
      obtain ⟨forest, roots, grown, order⟩ := ih
      -- the last trees are those of what came of the first event
      obtain ⟨rest, children, rfl, waited, came⟩ := List.map_eq_append_iff.mp roots
      obtain ⟨others, below⟩ := List.forall_mem_append.mp grown
      refine ⟨.node h children :: rest, ?_, ?_, ?_⟩
      · rw [List.map_cons, waited]
        rfl
      · exact List.forall_mem_cons.mpr ⟨.node gives came below, others⟩
      · rw [Tree.levelOrder_cons, ← order]
        rfl

theorem process_gives (signal : Signal) (w : World ω) :
    b.Traced observer w (b.recorded.process signal) (b.process signal) fun calls result =>
      ∀ outcome followUps, result = .ok (outcome, followUps) → ∃ outcomes, b.Gives ⟨signal, outcomes⟩ ∧
        calls = b.handled signal outcomes ∧ followUps = outcomes.flatMap Outcome.followUps := by
  refine ((deliver_traced signal w).bind fun outcomes after ran =>
    ((saved_traced signal (settledOutcome signal outcomes).status
      (settledError (settledOutcome signal outcomes))).map
        (f := fun _ => (settledOutcome signal outcomes, outcomes.flatMap Outcome.followUps))).mono
          fun shaped => And.intro (deliver_gives ran) shaped).mono ?_
  rintro calls result (⟨halt, -, rfl⟩ |
    ⟨before, outcomes, after, rfl, delivered, gives, given, ⟨answer, rfl, rfl⟩, rfl⟩)
  · rintro outcome followUps ⟨⟩
  · rintro outcome followUps came
    cases answer with
    | error cause => cases came
    | ok done =>
        cases came
        obtain ⟨-, same, -⟩ := delivered.delivered.2.2 _ rfl
        exact ⟨outcomes, gives, by rw [handled, same], rfl⟩

/-- A publication that comes to its end handles all events in the order in which they were queued. -/
theorem publish_spreads (observer : Observer ω) (fuel : Nat) (events : List Signal) (w : World ω) :
    b.Traced observer w (b.recorded.publish fuel events) (b.publish fuel events) fun calls result =>
      result = .ok () → ∃ handled, b.Spreads events handled ∧ calls = handled.flatMap b.publication := by
  induction fuel generalizing events w with
  | zero =>
      cases events with
      | nil => exact ⟨[], fun _ => ⟨[], .done, rfl⟩, .refl w, fun earlier => by rw [List.append_nil]; rfl⟩
      | cons event waiting =>
          exact ⟨[], nofun, .refl w, fun earlier => by rw [List.append_nil]; rfl⟩
  | succ fuel ih =>
      cases events with
      | nil => exact ⟨[], fun _ => ⟨[], .done, rfl⟩, .refl w, fun earlier => by rw [List.append_nil]; rfl⟩
      | cons event waiting =>
          refine (Traced.storing_bind (.save w event .received none) fun _ middle =>
            (process_gives event middle).bind fun processed after _ =>
              ih (waiting ++ processed.2) after).mono ?_
          rintro calls result (⟨cause, rfl, rfl⟩ | ⟨_, more, rfl, ⟨halt, -, rfl⟩ |
            ⟨before, ⟨outcome, followUps⟩, after, rfl, processed, later⟩⟩) came
          · cases came
          · cases came
          · obtain ⟨outcomes, gives, rfl, rfl⟩ := processed outcome followUps rfl
            obtain ⟨handled, spreads, rfl⟩ := later came
            refine ⟨⟨event, outcomes⟩ :: handled, .next gives spreads, rfl⟩

section Records

variable {h : Handled} {handled : List Handled} {id : SignalId}

theorem answered_delivering (signal : Signal) (consumers : List (Consumer ω)) (outcomes : List Outcome) :
    ∀ call ∈ answered signal consumers outcomes, ∃ c answer, call = .deliver c signal answer := by
  induction consumers generalizing outcomes with
  | nil => simp [answered]
  | cons c rest ih =>
      cases outcomes with
      | nil => simp [answered]
      | cons outcome others => exact List.forall_mem_cons.mpr ⟨⟨_, _, rfl⟩, ih others⟩

theorem outcome_settled (outcome : Outcome) : outcome.status ∈ [.ok, .rejected, .error] := by
  cases outcome <;> simp [Outcome.status]

theorem received_publication (b : Bus ω) (h : Handled) : received (b.publication h) = [h.signal] := by
  have delivered :
      received (answered h.signal ((b.registry h.signal.kind).consumers h.signal.type) h.outcomes) = [] := by
    refine List.filterMap_eq_nil_iff.mpr fun call member => ?_
    obtain ⟨c, answer, rfl⟩ := answered_delivering _ _ _ call member
    rfl
  have settled : ∀ status ∈ [SignalStatus.ok, .rejected, .error], ∀ error,
      received [.save h.signal status error (.ok ())] = [] := by
    simp [received]
  change h.signal :: received (b.handled h.signal h.outcomes) = _
  rw [handled, received, List.filterMap_append, ← received, ← received, delivered, settled _ (outcome_settled _)]
  rfl

theorem received_publications (b : Bus ω) (handled : List Handled) :
    received (handled.flatMap b.publication) = handled.map (·.signal) := by
  induction handled with
  | nil => rfl
  | cons h rest ih =>
      rw [List.flatMap_cons, received, List.filterMap_append, ← received, ← received, received_publication, ih]
      rfl

theorem trail_publication (b : Bus ω) (other : h.signal.id ≠ id) : trail id (b.publication h) = [] := by
  rw [publication, trail_saved_ne other, Bus.handled, trail_append, trail_saved_ne other,
    trail_delivering id (answered_delivering _ _ _), if_neg other]
  rfl

theorem trail_publications (b : Bus ω) (absent : id ∉ handled.map (·.signal.id)) :
    trail id (handled.flatMap b.publication) = [] := by
  induction handled with
  | nil => rfl
  | cons h rest ih =>
      rw [List.map_cons, List.mem_cons, not_or] at absent
      rw [List.flatMap_cons, trail_append, trail_publication b (Ne.symm absent.1), ih absent.2]
      rfl

theorem after_publication (b : Bus ω) (h : Handled) (records : SignalRecords) :
    records.after (b.publication h) h.signal.id = some h.record := by
  change SignalRecords.after _ (b.handled h.signal h.outcomes) h.signal.id = _
  rw [Bus.handled, SignalRecords.after_append]
  exact Function.update_self ..

/-- The last event with its id is recorded as it was settled. -/
theorem after_last (b : Bus ω) (before : List Handled) {later : List Handled}
    (last : h.signal.id ∉ later.map (·.signal.id)) (records : SignalRecords) :
    records.after ((before ++ h :: later).flatMap b.publication) h.signal.id = some h.record := by
  rw [List.flatMap_append, List.flatMap_cons, SignalRecords.after_append, SignalRecords.after_append,
    SignalRecords.after_untouched (trail_publications b last), after_publication]

/-- Some event is the last with its id. -/
theorem exists_last (member : h ∈ handled) : ∃ before last later, handled = before ++ last :: later ∧
    last.signal.id = h.signal.id ∧ last.signal.id ∉ later.map (·.signal.id) := by
  induction handled generalizing h with
  | nil => cases member
  | cons first rest ih =>
      by_cases again : h.signal.id ∈ rest.map (·.signal.id)
      · obtain ⟨other, among, same⟩ := List.mem_map.mp again
        obtain ⟨before, last, later, rfl, named, only⟩ := ih among
        exact ⟨first :: before, last, later, rfl, named.trans same, only⟩
      · obtain rfl | among := List.mem_cons.mp member
        · exact ⟨[], h, rest, rfl, rfl, again⟩
        · exact absurd (List.mem_map_of_mem among) again

end Records

section Publishing

variable {view : b.store.View} {later : World ω} {calls : List Call}

/-- What the calls have written stays recorded. -/
theorem Steps.within (steps : b.Steps observer w calls later) (keeps : b.Respects view SignalRecords.Within)
    (quiet : observer.Respects view SignalRecords.Within) :
    (SignalRecords.after (fun _ => none) calls).Within (view.record later.outside) := by
  refine steps.along keeps quiet (fun calls => (SignalRecords.after (fun _ => none) calls).Within) ?_ ?_ ?_
  · intro calls records call _ within
    rw [SignalRecords.after_append]
    exact within.write call
  · intro calls records others change within
    exact within.trans change
  · intro id r found
    cases found

/-- A publication that comes to its end has gone through a forest level by level: the roots are the
events it was given, and below each event stands what its consumers gave for it, in their order. No
other calls are made, and all of these events are settled. -/
theorem published_level_order (keeps : b.Respects view SignalRecords.Within)
    (steady : ∀ {type c}, c ∈ b.events.consumers type → c.Steady) {fuel : Nat} {events : List Signal}
    {after : World ω} (published : b.publish fuel events w = (.ok (), after)) :
    ∃ (forest : List (Tree Handled)) (calls : List Call),
      b.recorded.publish fuel events (w.recorded []) = (.ok (), after.recorded calls) ∧
      forest.map (·.value.signal) = events ∧ (∀ tree ∈ forest, b.Grown tree) ∧
      received calls = (Tree.levelOrder forest).map (·.signal) ∧
      calls = (Tree.levelOrder forest).flatMap b.publication ∧
      (∀ h ∈ Tree.levelOrder forest, h.signal.kind = .event →
        ∀ outcomes, b.Gives ⟨h.signal, outcomes⟩ → List.Forall₂ Outcome.Like h.outcomes outcomes) ∧
      (∀ h ∈ Tree.levelOrder forest, ∃ r, view.record after.outside h.signal.id = some r ∧
        r.status ∈ [.ok, .rejected, .error]) ∧
      (∀ before h later, Tree.levelOrder forest = before ++ h :: later → h.signal.id ∉ later.map (·.signal.id) →
        view.record after.outside h.signal.id = some h.record ∧
        (h.signal.kind = .event → b.recipients h.signal = [] → h.record = ⟨h.signal, .ok, none⟩)) := by
  obtain ⟨calls, shaped, steps, same⟩ := publish_spreads (b := b) .discarding fuel events w
  rw [published] at shaped steps same
  obtain ⟨handled, spreads, rfl⟩ := shaped rfl
  obtain ⟨forest, roots, grown, rfl⟩ := spreads.forest
  have recorded := steps.within keeps fun _ _ _ _ found => found
  have run := same []
  rw [List.nil_append] at run
  refine ⟨forest, (Tree.levelOrder forest).flatMap b.publication, run, roots, grown, ?_, rfl, ?_, ?_, ?_⟩
  · exact received_publications b _
  · intro h member event outcomes gives
    refine gives_like (fun c among => ?_) (spreads.gives h member) gives
    rw [event] at among
    exact steady among
  · intro h member
    obtain ⟨before, last, later, order, named, only⟩ := exists_last member
    refine ⟨last.record, recorded _ _ ?_, outcome_settled _⟩
    rw [order, ← named]
    exact after_last b before only _
  · intro before h later order last
    have member : h ∈ Tree.levelOrder forest := by
      rw [order]
      exact List.mem_append_right _ List.mem_cons_self
    refine ⟨recorded _ _ ?_, fun event nobody => (spreads.gives h member).unheard event nobody⟩
    rw [order]
    exact after_last b before last _

end Publishing

open Sample Square in
/-- When the account is opened, one subscriber fails. What the other one gives is published all the same. -/
theorem published_level_order_square :
    let run := Square.bus.publish 9 [opening] opened
    run.1 = .ok () ∧
      ∃ (forest : List (Tree Handled)) (calls : List Call),
        Square.bus.recorded.publish 9 [opening] (opened.recorded []) = (.ok (), run.2.recorded calls) ∧
        forest.map (·.value.signal) = [opening] ∧ (∀ tree ∈ forest, Square.bus.Grown tree) ∧
        received calls = (Tree.levelOrder forest).map (·.signal) ∧
        (received calls).map (·.type) = ["bank.AccountOpened", "bank.Deposited", "bank.Deposited"] ∧
        (run.2.outside.record? opening.id).map (·.status) = some .error := by
  intro run
  have published : run.1 = .ok () := by decide +kernel
  have steady : ∀ {type c}, c ∈ Square.bus.events.consumers type → c.Steady := by
    intro type c member
    obtain ⟨set, rfl, still⟩ := @consumers .event type c member
    exact Consumer.Steady.of_still still
  have came : run = (.ok (), run.2) := by rw [← published, Prod.eta]
  have keeps : Square.bus.Respects Square.view SignalRecords.Within :=
    bus_apart.respects.mono fun same id _ found => (congrFun same id).symm.trans found
  obtain ⟨forest, calls, same, roots, grown, order, -, -, -, -⟩ :=
    published_level_order keeps steady came
  have told : (Square.bus.recorded.publish 9 [opening] (opened.recorded [])).2.outside.calls = calls :=
    congrArg (fun made => made.2.outside.calls) same
  refine ⟨published, forest, calls, same, roots, grown, order, ?_, by decide +kernel⟩
  rw [← told]
  decide +kernel

end Bus

end Switchboard
