import Mathlib.Data.List.Perm.Basic
import Switchboard.Proofs.Bus.Enrollment
import Switchboard.Proofs.Bus.Storing
import Switchboard.Proofs.Consumer.Reordering

namespace Switchboard

/-! Publishing when the subscribers stand in another order. Every level of events is gone through
differently then. Still the same events are published, and each ends as it did. -/

variable {ω : Type}

namespace Outcome

/-- The outcome in all does not depend on the order of the single ones. -/
theorem merge_status_perm {outcomes others : List Outcome}
    (perm : (outcomes.map essence).Perm (others.map essence)) : (merge outcomes).status = (merge others).status := by
  have failed : ∀ outcomes : List Outcome, outcomes.any isFailure = (outcomes.map essence).any (·.1 = .error) := by
    intro outcomes
    rw [List.any_map]
    exact congrArg outcomes.any (funext fun outcome => by cases outcome <;> rfl)
  have rejected : ∀ outcomes : List Outcome,
      outcomes.any isRejection = (outcomes.map essence).any (·.1 = .rejected) := by
    intro outcomes
    rw [List.any_map]
    exact congrArg outcomes.any (funext fun outcome => by cases outcome <;> rfl)
  rw [merge_status, merge_status, failed, failed, rejected, rejected, perm.any_eq, perm.any_eq]

end Outcome

namespace Consumer

variable {signal other : Signal} {consumers : List (Consumer ω)} {first last : List Outcome}

theorem Regular.gives {c : Consumer ω} (regular : c.Regular) (same : signal.essence = other.essence)
    {outcome : Outcome} (gives : c.Gives signal outcome) (w : World ω) :
    ∃ reply after, c.deliver other w = (.ok reply, after) ∧ reply.essence = outcome.essence := by
  obtain ⟨v, given⟩ := gives
  have alike := regular same v w
  rw [given] at alike
  rcases again : c.deliver other w with ⟨error | reply, after⟩
  · rw [again] at alike
    cases alike
  · rw [again] at alike
    exact ⟨reply, after, rfl, (Except.ok.inj alike).symm⟩

theorem exists_given {c : Consumer ω} (given : List.Forall₂ (fun c outcome => c.Gives signal outcome) consumers first)
    (among : c ∈ consumers) : ∃ outcome, c.Gives signal outcome := by
  induction given with
  | nil => cases among
  | cons here later ih =>
      obtain rfl | among := List.mem_cons.mp among
      · exact ⟨_, here⟩
      · exact ih among

theorem gives_essence (regular : ∀ c ∈ consumers, c.Regular) (same : signal.essence = other.essence)
    (once : List.Forall₂ (fun c outcome => c.Gives signal outcome) consumers first)
    (again : List.Forall₂ (fun c outcome => c.Gives other outcome) consumers last) :
    last.map Outcome.essence = first.map Outcome.essence := by
  induction once generalizing last with
  | nil =>
      cases again
      rfl
  | cons here later ih =>
      obtain ⟨own, others⟩ := List.forall_mem_cons.mp regular
      cases again with
      | cons there rest =>
          obtain ⟨v, given⟩ := there
          obtain ⟨reply, after, answered, alike⟩ := own.gives same here v
          rw [answered] at given
          cases given
          rw [List.map_cons, List.map_cons, alike, ih others rest]

end Consumer

/-- A run halts like this when a signal cannot be saved. -/
def SignalStore.Fails (store : SignalStore ω) (halt : Halt) : Prop :=
  ∃ signal status error outside cause, (store.save signal status error outside).1 = .error cause ∧
    halt = .error (.storage cause)

namespace Bus

variable {b other : Bus ω} {event : Signal} {waiting queue : List Signal} {forest : List (Tree Handled)} {w : World ω}

theorem save_error {signal : Signal} {status : SignalStatus} {error : Option ErrorRecord} {halt : Halt}
    (halted : (b.save signal status error w).1 = .error halt) : b.store.Fails halt := by
  rw [save, Run.storing_apply] at halted
  cases made : (b.store.save signal status error w.outside).1 with
  | ok done =>
      rw [made] at halted
      cases halted
  | error cause =>
      rw [made] at halted
      cases halted
      exact ⟨signal, status, error, w.outside, cause, made, rfl⟩

theorem Grown.node_inv {tree : Tree Handled} (grown : b.Grown tree) : b.Gives tree.value ∧
    tree.children.map (·.value.signal) = tree.value.followUps ∧ ∀ child ∈ tree.children, b.Grown child := by
  cases grown with
  | node gives next grown => exact ⟨gives, next, grown⟩

/-- The subscribers are the same but for their order, and depend on nothing but what is delivered to them. -/
structure Reordered (b other : Bus ω) : Prop where
  perm : ∀ type, (other.events.consumers type).Perm (b.events.consumers type)
  regular : ∀ type, ∀ c ∈ b.events.consumers type, c.Regular

/-- What is to come of a queue, as the forest of events that another bus has gone through. -/
structure Foreseen (b : Bus ω) (queue : List Signal) (forest : List (Tree Handled)) : Prop where
  grown : ∀ tree ∈ forest, b.Grown tree
  kinds : ∀ h ∈ Tree.levelOrder forest, h.signal.kind = .event
  roots : (queue.map Signal.essence).Perm (forest.map (·.value.signal.essence))

theorem Spreads.foreseen {handled : List Handled} (spreads : b.Spreads queue handled)
    (kinds : ∀ h ∈ handled, h.signal.kind = .event) :
    ∃ forest, Tree.levelOrder forest = handled ∧ b.Foreseen queue forest := by
  obtain ⟨forest, roots, grown, rfl⟩ := spreads.forest
  refine ⟨forest, rfl, grown, kinds, ?_⟩
  rw [← roots, List.map_map]
  rfl

namespace Reordered

variable (reordered : b.Reordered other)
include reordered

/-- An event has the same outcomes in another order. -/
theorem outcomes {h again : Handled} (same : h.signal.essence = again.signal.essence) (told : h.signal.kind = .event)
    (gives : b.Gives h) (regives : other.Gives again) :
    (again.outcomes.map Outcome.essence).Perm (h.outcomes.map Outcome.essence) := by
  rw [Gives, told] at gives
  rw [Gives, ← Signal.kind_of_essence same, told, ← Signal.type_of_essence same] at regives
  obtain ⟨outcomes, taken, perm⟩ := List.perm_comp_forall₂ (reordered.perm h.signal.type) gives
  have regular : ∀ c ∈ other.events.consumers h.signal.type, c.Regular := fun c among =>
    reordered.regular h.signal.type c ((reordered.perm _).subset among)
  rw [Consumer.gives_essence regular same taken regives]
  exact perm.map Outcome.essence

theorem essence {h again : Handled} (same : h.signal.essence = again.signal.essence) (told : h.signal.kind = .event)
    (gives : b.Gives h) (regives : other.Gives again) : again.essence = h.essence := by
  have status : again.outcome.status = h.outcome.status := by
    have heard := (Signal.kind_of_essence same).symm.trans told
    rw [Handled.outcome, Handled.outcome, settledOutcome_eq_merge (.inl told), settledOutcome_eq_merge (.inl heard)]
    exact Outcome.merge_status_perm (reordered.outcomes same told gives regives)
  exact Prod.ext same.symm status

theorem followUps {h again : Handled} (same : h.signal.essence = again.signal.essence) (told : h.signal.kind = .event)
    (gives : b.Gives h) (regives : other.Gives again) :
    (again.followUps.map Signal.essence).Perm (h.followUps.map Signal.essence) := by
  have gathered : ∀ outcomes : List Outcome, (outcomes.flatMap Outcome.followUps).map Signal.essence =
      (outcomes.map Outcome.essence).flatMap (·.2) := by
    intro outcomes
    rw [List.map_flatMap, List.flatMap_map]
    rfl
  rw [Handled.followUps, Handled.followUps, gathered, gathered]
  exact (reordered.outcomes same told gives regives).flatMap_right _

/-- The first event of the queue is the root of some tree. When it is handled, what comes of it can be
foreseen in the trees below. -/
theorem foreseen_next (foreseen : b.Foreseen (event :: waiting) forest) : ∃ h rest,
    b.Gives h ∧ h.signal.kind = .event ∧ h.signal.essence = event.essence ∧
      (Tree.levelOrder forest).Perm (h :: Tree.levelOrder rest) ∧ Tree.sizes forest = Tree.sizes rest + 1 ∧
      ∀ outcomes, other.Gives ⟨event, outcomes⟩ → Handled.essence ⟨event, outcomes⟩ = h.essence ∧
        b.Foreseen (waiting ++ Handled.followUps ⟨event, outcomes⟩) rest := by
  have member := foreseen.roots.subset List.mem_cons_self
  obtain ⟨tree, among, same⟩ := List.mem_map.mp member
  obtain ⟨before, after, rfl⟩ := List.append_of_mem among
  have picked := Tree.levelOrder_pick before after tree
  obtain ⟨gives, next, grown⟩ := (foreseen.grown tree among).node_inv
  have kinds := foreseen.kinds
  simp only [picked.mem_iff, List.forall_mem_cons] at kinds
  refine ⟨tree.value, before ++ after ++ tree.children, gives, kinds.1, same, picked, Tree.sizes_pick before after tree,
    fun outcomes regives => ⟨reordered.essence same kinds.1 gives regives, ?_, kinds.2, ?_⟩⟩
  · refine List.forall_mem_append.mpr ⟨fun other beside => foreseen.grown other ?_, grown⟩
    rw [List.mem_append] at beside ⊢
    exact beside.imp_right (List.mem_cons_of_mem tree)
  · have roots : (event.essence :: waiting.map Signal.essence).Perm
        (tree.value.signal.essence :: (before ++ after).map (·.value.signal.essence)) :=
      foreseen.roots.trans (List.perm_middle.map _)
    have below : ((Handled.followUps ⟨event, outcomes⟩).map Signal.essence).Perm
        (tree.children.map (·.value.signal.essence)) := by
      have come := reordered.followUps same kinds.1 gives regives
      rwa [← next, List.map_map] at come
    rw [same] at roots
    rw [List.map_append, List.map_append]
    exact roots.cons_inv.append below

/-- All that is foreseen comes to pass, in one order or another. -/
theorem spreads {handled : List Handled} (spreads : other.Spreads queue handled) (foreseen : b.Foreseen queue forest) :
    (handled.map Handled.essence).Perm ((Tree.levelOrder forest).map Handled.essence) := by
  induction spreads generalizing forest with
  | done =>
      have bare := List.map_eq_nil_iff.mp foreseen.roots.nil_eq.symm
      subst bare
      simp [Tree.levelOrder]
  | next gives spreads ih =>
      obtain ⟨h, rest, -, -, -, picked, -, onward⟩ := reordered.foreseen_next foreseen
      obtain ⟨alike, later⟩ := onward _ gives
      refine .trans ?_ (picked.map _).symm
      rw [List.map_cons, List.map_cons, ← alike]
      exact (ih later).cons _

theorem deliver_total {h : Handled} (gives : b.Gives h) (told : h.signal.kind = .event)
    (same : h.signal.essence = event.essence) (w : World ω) :
    ∃ outcomes after, other.deliver event w = (.ok outcomes, after) := by
  refine Run.mapM_total (fun c among w => ?_) w
  rw [← Signal.kind_of_essence same, told, ← Signal.type_of_essence same] at among
  have member := (reordered.perm h.signal.type).subset among
  rw [Gives, told] at gives
  obtain ⟨outcome, given⟩ := Consumer.exists_given gives member
  have regular : c.Regular := reordered.regular h.signal.type c member
  obtain ⟨reply, after, answered, -⟩ := regular.gives same given w
  refine ⟨reply, after, ?_⟩
  rw [Run.bind_ok (Run.acting_apply _ w), answered]
  rfl

theorem process_total {h : Handled} (gives : b.Gives h) (told : h.signal.kind = .event)
    (same : h.signal.essence = event.essence) (w : World ω) :
    (∃ halt after, other.process event w = (.error halt, after) ∧ other.store.Fails halt) ∨
      ∃ outcomes outcome after, other.Gives ⟨event, outcomes⟩ ∧
        other.process event w = (.ok (outcome, Handled.followUps ⟨event, outcomes⟩), after) := by
  obtain ⟨outcomes, middle, delivered⟩ := reordered.deliver_total gives told same w
  rw [process, Run.bind_ok delivered]
  rcases saved : other.save event (settledOutcome event outcomes).status
    (settledError (settledOutcome event outcomes)) middle with ⟨halt | done, after⟩
  · exact .inl ⟨halt, after, Run.bind_error saved, save_error (congrArg Prod.fst saved)⟩
  · exact .inr ⟨outcomes, settledOutcome event outcomes, after, deliver_gives delivered, Run.bind_ok saved⟩

/-- A publication that can be foreseen is broken off by nothing but the store. -/
theorem publish_total {fuel : Nat} (foreseen : b.Foreseen queue forest) (enough : Tree.sizes forest ≤ fuel)
    {halt : Halt} (halted : (other.publish fuel queue w).1 = .error halt) : other.store.Fails halt := by
  induction fuel generalizing queue forest w with
  | zero =>
      cases queue with
      | nil => cases halted
      | cons event waiting =>
          obtain ⟨h, rest, -, -, -, -, counted, -⟩ := reordered.foreseen_next foreseen
          omega
  | succ fuel ih =>
      cases queue with
      | nil => cases halted
      | cons event waiting =>
          obtain ⟨h, rest, gives, told, same, -, counted, onward⟩ := reordered.foreseen_next foreseen
          rw [publish] at halted
          rcases saved : other.save event .received none w with ⟨broken | done, stored⟩
          · rw [Run.bind_error saved] at halted
            cases halted
            exact save_error (congrArg Prod.fst saved)
          · rw [Run.bind_ok saved] at halted
            rcases reordered.process_total gives told same stored with
              ⟨broken, after, processed, fails⟩ | ⟨outcomes, outcome, after, regives, processed⟩
            · rw [Run.bind_error processed] at halted
              cases halted
              exact fails
            · rw [Run.bind_ok processed] at halted
              exact ih (onward outcomes regives).2 (by omega) halted

/-- Events that are the same in both runs end in the same way. -/
theorem essences {handled again : List Handled} (signals : again.map (·.signal) = handled.map (·.signal))
    (told : ∀ h ∈ handled, h.signal.kind = .event) (gives : ∀ h ∈ handled, b.Gives h)
    (regives : ∀ h ∈ again, other.Gives h) : again.map Handled.essence = handled.map Handled.essence := by
  induction handled generalizing again with
  | nil =>
      rw [List.map_eq_nil_iff.mp signals]
  | cons h rest ih =>
      obtain ⟨last, left, rfl, same, others⟩ := List.map_eq_cons_iff.mp signals
      obtain ⟨kind, kinds⟩ := List.forall_mem_cons.mp told
      obtain ⟨here, later⟩ := List.forall_mem_cons.mp gives
      obtain ⟨there, more⟩ := List.forall_mem_cons.mp regives
      have alike := reordered.essence (congrArg Signal.essence same.symm) kind here there
      rw [List.map_cons, List.map_cons, alike, ih others kinds later more]

section Stored

variable {view : b.store.View} {again : other.store.View} {events : List Signal} {w v after ended : World ω}
  {initial later first last : List Handled}
  (once : b.Divided view events w initial later after) (twice : other.Divided again events v first last ended)
include once twice

/-- Under the ids that it was given, either run leaves the same. -/
theorem record_given {id : SignalId} (given : id ∈ events.map (·.id)) :
    (again.record ended.outside id).map SignalRecord.essence =
      (view.record after.outside id).map SignalRecord.essence := by
  rw [← once.given, List.map_map] at given
  obtain ⟨h, among, rfl⟩ := List.mem_map.mp given
  -- the last event with the id is at the same place in both runs
  obtain ⟨before, final, rest, order, named, only⟩ := exists_last among
  have signals : first.map (·.signal) = before.map (·.signal) ++ final.signal :: rest.map (·.signal) := by
    rw [twice.given, ← once.given, order, List.map_append, List.map_cons]
  obtain ⟨front, behind, reorder, -, tail⟩ := List.map_eq_append_iff.mp signals
  obtain ⟨same, back, rfl, equal, backs⟩ := List.map_eq_cons_iff.mp tail
  have none : same.signal.id ∉ back.map (·.signal.id) := by
    have ids := congrArg (List.map Signal.id) backs
    rw [List.map_map, List.map_map] at ids
    rw [equal]
    exact ids.symm ▸ only
  have here : final ∈ initial ++ later := by simp [order]
  have there : same ∈ first ++ last := by simp [reorder]
  have alike := reordered.essence (congrArg Signal.essence equal.symm) (once.kinds final here)
    (once.spreads.gives final here) (twice.spreads.gives same there)
  have recorded := once.record_initial order only
  have rerecorded := twice.record_initial reorder none
  rw [equal, named] at rerecorded
  rw [named] at recorded
  rw [Function.comp_apply, recorded, rerecorded]
  exact congrArg some alike

theorem stored : (again.stored events v ended).Perm (view.stored events w after) := by
  have gone : ((first ++ last).map Handled.essence).Perm ((initial ++ later).map Handled.essence) := by
    obtain ⟨forest, order, foreseen⟩ := once.spreads.foreseen once.kinds
    rw [← order]
    exact reordered.spreads twice.spreads foreseen
  have begun : first.map Handled.essence = initial.map Handled.essence := by
    refine reordered.essences (twice.given.trans once.given.symm) ?_ ?_ ?_
    · exact fun h member => once.kinds h (List.mem_append_left _ member)
    · exact fun h member => once.spreads.gives h (List.mem_append_left _ member)
    · exact fun h member => twice.spreads.gives h (List.mem_append_left _ member)
  have drawn : (last.map Handled.essence).Perm (later.map Handled.essence) := by
    rw [List.map_append, List.map_append, begun] at gone
    exact (List.perm_append_left_iff _).mp gone
  have same : (events.map (·.id)).dedup.filterMap (fun id => (again.record ended.outside id).map SignalRecord.essence) =
      (events.map (·.id)).dedup.filterMap fun id => (view.record after.outside id).map SignalRecord.essence :=
    List.filterMap_congr fun id member => reordered.record_given once twice (List.mem_dedup.mp member)
  rw [SignalStore.View.stored, SignalStore.View.stored, List.filterMap_append, List.filterMap_append, same]
  exact ((twice.stored_drawn.trans drawn).trans once.stored_drawn.symm).append_left _

end Stored

end Reordered

theorem register_events_iff {b : Bus ω} {r : Registry ω} {subscribers : List (Consumer ω)} :
    subscribers.forM (register .event) b = (.ok (), b.withRegistry .event r) ↔
      subscribers.forM Registry.register b.events = (.ok (), r) := by
  induction subscribers generalizing b with
  | nil =>
      constructor
      · intro same
        exact congrArg (fun ended => (Except.ok (), ended.2.events)) same
      · intro same
        exact congrArg (fun ended => (Except.ok (), b.withRegistry .event ended.2)) same
  | cons c rest ih =>
      rw [Computation.forM_cons_ok_iff, Computation.forM_cons_ok_iff]
      constructor
      · rintro ⟨middle, first, others⟩
        obtain ⟨next, registered, rfl⟩ := register_ok_iff.mp first
        exact ⟨next, registered, ih.mp others⟩
      · rintro ⟨next, registered, others⟩
        exact ⟨_, register_ok_iff.mpr ⟨next, registered, rfl⟩, ih.mpr others⟩

/-- The same subscribers can be registered in any order. When they depend on nothing but what is
delivered to them, a publication stores the same events in the same status, save for ids and times. -/
theorem subscribers_reordered {b : Bus ω} {r : Registry ω} {view : b.store.View}
    {subscribers others : List (Consumer ω)}
    (registered : subscribers.forM (register .event) b = (.ok (), b.withRegistry .event r))
    (perm : others.Perm subscribers) (regular : ∀ type, ∀ c ∈ r.consumers type, c.Regular)
    (tidy : ∀ type, ∀ c ∈ r.consumers type, c.Tidy view) {fuel : Nat} {events : List Signal} {w after : World ω}
    (told : ∀ event ∈ events, event.kind = .event)
    (published : (b.withRegistry .event r).publish fuel events w = (.ok (), after))
    (fresh : view.Fresh events w after) :
    ∃ other, others.forM (register .event) b = (.ok (), b.withRegistry .event other) ∧
      ∀ v, let run := (b.withRegistry .event other).publish fuel events v
        (∀ halt, run.1 = .error halt → b.store.Fails halt) ∧
        (run.1 = .ok () → view.Fresh events v run.2 →
          (view.stored events v run.2).Perm (view.stored events w after) ∧
          ∀ id, id ∉ events.map (·.id) → id ∉ v.supply.drawn run.2.supply →
            view.record run.2.outside id = view.record v.outside id) := by
  obtain ⟨other, restands, same⟩ := Registry.registrations_reordered (register_events_iff.mp registered) perm
  have reordered : (b.withRegistry .event r).Reordered (b.withRegistry .event other) := ⟨same, regular⟩
  obtain ⟨handled, within, carried⟩ : ∃ handled, handled.length ≤ fuel ∧
      (b.withRegistry .event r).Carried view events w handled after := publish_carried tidy told published
  have retidy : ∀ type, ∀ c ∈ other.consumers type, c.Tidy view := fun type c among =>
    tidy type c ((same type).subset among)
  refine ⟨other, register_events_iff.mpr restands, fun v => ⟨fun halt halted => ?_, fun ended renewed => ?_⟩⟩
  · obtain ⟨forest, rfl, foreseen⟩ := carried.spreads.foreseen carried.kinds
    rw [Tree.length_levelOrder] at within
    exact reordered.publish_total foreseen within halted
  · obtain ⟨again, -, recarried⟩ : ∃ again, again.length ≤ fuel ∧
        (b.withRegistry .event other).Carried view events v again _ := publish_carried retidy told (Prod.ext ended rfl)
    obtain ⟨initial, later, rfl, once⟩ := carried.divided fresh
    obtain ⟨first, last, rfl, twice⟩ := recarried.divided renewed
    exact ⟨reordered.stored once twice, fun id given drawn => twice.record_other given drawn⟩

open Sample Square in
/-- When an account is opened, it makes no difference who hears of it first. -/
theorem subscribers_reordered_square : (announced audience).1 = .ok () ∧ (announced audience.reverse).1 = .ok () ∧
    (Square.view.stored [opening] opened (announced audience).2).map (·.2) = [.error, .ok, .ok] ∧
    (Square.view.stored [opening] opened (announced audience.reverse).2).Perm
      (Square.view.stored [opening] opened (announced audience).2) := by
  have stands := crowd_registered audience (by decide +kernel)
  have restands := crowd_registered audience.reverse (by decide +kernel)
  have published : (announced audience).1 = .ok () ∧ (announced audience).2.supply.idsDrawn = 2 := by decide +kernel
  have republished : (announced audience.reverse).1 = .ok () ∧ (announced audience.reverse).2.supply.idsDrawn = 2 := by
    decide +kernel
  have hosts : ∀ type, ∀ c ∈ (crowd audience).consumers type, ∃ set ∈ audience, c = .handlers set := by
    intro type c among
    rw [Registry.registrations_apply stands] at among
    obtain ⟨host, member, entered⟩ := List.mem_flatMap.mp among
    obtain ⟨set, within, rfl⟩ := List.mem_map.mp member
    exact ⟨set, within, (Consumer.mem_entries.mp entered).2⟩
  have regular : ∀ type, ∀ c ∈ (crowd audience).consumers type, c.Regular := by
    intro type c among
    obtain ⟨set, within, rfl⟩ := hosts type c among
    exact Consumer.Regular.of_methods (audience_regular set within)
  have tidy : ∀ type, ∀ c ∈ (crowd audience).consumers type, c.Tidy Square.view := by
    intro type c among
    obtain ⟨set, within, rfl⟩ := hosts type c among
    exact (Consumer.Apart.of_still (audience_still set within)).tidy
  have registered : (audience.map Consumer.handlers).forM (register .event) deserted =
      (.ok (), deserted.withRegistry .event (crowd audience)) := register_events_iff.mpr stands
  have turn : (audience.reverse.map Consumer.handlers).Perm (audience.map Consumer.handlers) :=
    (List.reverse_perm audience).map _
  obtain ⟨other, turned, same⟩ := subscribers_reordered registered turn regular tidy
    (List.forall_mem_singleton.mpr rfl) (Prod.ext published.1 rfl) (opened_fresh published.2)
  obtain rfl : crowd audience.reverse = other :=
    congrArg Prod.snd (restands.symm.trans (register_events_iff.mp turned))
  obtain ⟨-, stored⟩ := same opened
  exact ⟨published.1, republished.1, by decide +kernel, (stored republished.1 (opened_fresh republished.2)).1⟩

end Bus

end Switchboard
