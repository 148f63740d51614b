import Mathlib.Data.List.Dedup
import Switchboard.Proofs.Bus.Keeping
import Switchboard.Proofs.Bus.LevelOrder
import Switchboard.Proofs.Consumer.Regularity

namespace Switchboard

/-! What a publication leaves in the store: the events that it was given, those that were drawn while
it ran, and nothing else. -/

variable {ω : Type}

namespace Supply

variable {start later : Supply} {ids : List SignalId} {used : SignalId → Prop}

/-- The ids that are drawn from one state of a supply to another, in their order. -/
def drawn (start later : Supply) : List SignalId :=
  (List.range' start.idsDrawn (later.idsDrawn - start.idsDrawn)).map start.ids

theorem Draws.sublist_drawn (draws : start.Draws ids later) : ids.Sublist (start.drawn later) := by
  obtain ⟨-, count, counted, drawn⟩ := draws
  rw [Supply.drawn, counted, Nat.add_sub_cancel_left]
  exact drawn

theorem Draws.all_drawn (draws : start.Draws ids later) : start.Draws (start.drawn later) later := by
  obtain ⟨source, count, counted, -⟩ := draws
  refine ⟨source, count, counted, ?_⟩
  rw [Supply.drawn, counted, Nat.add_sub_cancel_left]

end Supply

/-- What is stored under the ids of these events and under those drawn since, apart from ids and times. -/
def SignalStore.View.stored {store : SignalStore ω} (view : store.View) (events : List Signal) (w after : World ω) :
    List (Signal × SignalStatus) :=
  ((events.map (·.id)).dedup ++ w.supply.drawn after.supply).filterMap fun id =>
    (view.record after.outside id).map SignalRecord.essence

/-- All ids that are drawn are new: no event has one of them, and nothing is stored under them. -/
def SignalStore.View.Fresh {store : SignalStore ω} (view : store.View) (events : List Signal)
    (w after : World ω) : Prop :=
  w.supply.Fresh after.supply.idsDrawn fun id => id ∈ events.map (·.id) ∨ (view.record w.outside id).isSome

/-- How a signal ended, apart from ids and times. -/
def Handled.essence (h : Handled) : Signal × SignalStatus := h.record.essence

theorem Outcome.newIds_flatMap (outcomes : List Outcome) :
    (outcomes.flatMap followUps).map (·.id) = outcomes.flatMap newIds := by
  rw [List.map_flatMap]
  rfl

namespace Run

variable {α β : Type} {step : α → Run ω β} {items : List α}

/-- If every step comes to its end, so does the whole run. -/
theorem mapM_total (total : ∀ item ∈ items, ∀ w, ∃ value after, step item w = (.ok value, after)) (w : World ω) :
    ∃ values after, items.mapM step w = (.ok values, after) := by
  induction items generalizing w with
  | nil => exact ⟨[], w, rfl⟩
  | cons item rest ih =>
      obtain ⟨here, later⟩ := List.forall_mem_cons.mp total
      obtain ⟨value, middle, first⟩ := here w
      obtain ⟨values, after, others⟩ := ih later middle
      refine ⟨value :: values, after, ?_⟩
      rw [List.mapM_cons, bind_ok first, bind_ok others]
      rfl

end Run

namespace Bus

variable {b : Bus ω} {view : b.store.View} {w after : World ω}

theorem deliver_tidy {signal : Signal} (tidy : ∀ c ∈ (b.registry signal.kind).consumers signal.type, c.Tidy view)
    {outcomes : List Outcome} (delivered : b.deliver signal w = (.ok outcomes, after)) :
    w.supply.Draws (outcomes.flatMap Outcome.newIds) after.supply ∧
      ∀ event ∈ outcomes.flatMap Outcome.followUps, event.kind = .event := by
  refine Run.mapM_along (fun consumers w outcomes after => (∀ c ∈ consumers, c.Tidy view) →
    w.supply.Draws (outcomes.flatMap Outcome.newIds) after.supply ∧
      ∀ event ∈ outcomes.flatMap Outcome.followUps, event.kind = .event) ?_ ?_ delivered tidy
  · exact fun w _ => ⟨.refl _, by simp⟩
  · intro c rest w middle outcome others after answered later tidy
    obtain ⟨own, beside⟩ := List.forall_mem_cons.mp tidy
    have draws := own.draws signal w
    have events := own.events signal w
    rw [Run.bind_ok (Run.acting_apply _ w)] at answered
    rcases given : c.deliver signal w with ⟨error | reply, last⟩
    · rw [given] at answered
      cases answered
    · rw [given] at answered draws events
      cases answered
      obtain ⟨drawn, told⟩ := later beside
      exact ⟨(draws.2 rfl).trans drawn, List.forall_mem_append.mpr ⟨events outcome rfl, told⟩⟩

/-- What a publication of events that has come to its end has handled, drawn and written. -/
structure Carried (b : Bus ω) (view : b.store.View) (queue : List Signal) (w : World ω) (handled : List Handled)
    (after : World ω) : Prop where
  spreads : b.Spreads queue handled
  kinds : ∀ h ∈ handled, h.signal.kind = .event
  records : view.record after.outside = (view.record w.outside).after (handled.flatMap b.publication)
  draws : w.supply.Draws ((handled.flatMap Handled.followUps).map (·.id)) after.supply

theorem after_handled (b : Bus ω) (h : Handled) (records : SignalRecords) :
    records.after (b.publication h) = Function.update records h.signal.id (some h.record) := by
  funext id
  by_cases same : id = h.signal.id
  · subst same
    rw [after_publication, Function.update_self]
  · rw [Function.update_of_ne same, SignalRecords.after_untouched (trail_publication b (Ne.symm same))]

variable (tidy : ∀ type, ∀ c ∈ b.events.consumers type, c.Tidy view)
include tidy

theorem process_tidy {event : Signal} (told : event.kind = .event) {processed : Outcome × List Signal}
    (ran : b.process event w = (.ok processed, after)) :
    ∃ h : Handled, h.signal = event ∧ b.Gives h ∧ processed.2 = h.followUps ∧
      view.record after.outside = Function.update (view.record w.outside) event.id (some h.record) ∧
      w.supply.Draws (h.followUps.map (·.id)) after.supply ∧ ∀ next ∈ h.followUps, next.kind = .event := by
  have heard : ∀ c ∈ (b.registry event.kind).consumers event.type, c.Tidy view := by
    rw [told]
    exact tidy event.type
  obtain ⟨outcomes, middle, delivered, ran⟩ := Run.of_bind_ok ran
  obtain ⟨_, last, saved, ran⟩ := Run.of_bind_ok ran
  cases ran
  have kept := deliver_keeps (fun c among => (heard c among).records) w
  have undrawn := b.save_supply event (settledOutcome event outcomes).status
    (settledError (settledOutcome event outcomes)) middle
  obtain ⟨draws, events⟩ := deliver_tidy heard delivered
  rw [delivered] at kept
  rw [saved] at undrawn
  refine ⟨⟨event, outcomes⟩, rfl, deliver_gives delivered, rfl, ?_, ?_, events⟩
  · rw [save_record saved, kept]
    rfl
  · rw [undrawn, Handled.followUps, Outcome.newIds_flatMap]
    exact draws

theorem publish_carried {fuel : Nat} {queue : List Signal} (events : ∀ event ∈ queue, event.kind = .event)
    (published : b.publish fuel queue w = (.ok (), after)) :
    ∃ handled, handled.length ≤ fuel ∧ b.Carried view queue w handled after := by
  induction fuel generalizing queue w with
  | zero =>
      cases queue with
      | nil =>
          cases published
          exact ⟨[], Nat.zero_le _, .done, by simp, rfl, .refl _⟩
      | cons event waiting => cases published
  | succ fuel ih =>
      cases queue with
      | nil =>
          cases published
          exact ⟨[], Nat.zero_le _, .done, by simp, rfl, .refl _⟩
      | cons event waiting =>
          obtain ⟨told, others⟩ := List.forall_mem_cons.mp events
          have undrawn := b.save_supply event .received none w
          obtain ⟨_, stored, saved, published⟩ := Run.of_bind_ok published
          obtain ⟨⟨outcome, followUps⟩, middle, ran, published⟩ := Run.of_bind_ok published
          obtain ⟨h, rfl, gives, rfl, settled, draws, next⟩ := process_tidy tidy told ran
          obtain ⟨handled, within, carried⟩ := ih (List.forall_mem_append.mpr ⟨others, next⟩) published
          rw [saved] at undrawn
          refine ⟨h :: handled, Nat.succ_le_succ within, .next gives carried.spreads,
            List.forall_mem_cons.mpr ⟨told, carried.kinds⟩, ?_, ?_⟩
          · rw [carried.records, settled, save_record saved, List.flatMap_cons, SignalRecords.after_append,
              after_handled, Function.update_idem]
          · rw [List.flatMap_cons, List.map_append, ← undrawn]
            exact draws.trans carried.draws

omit tidy

theorem Spreads.signals {queue : List Signal} {handled : List Handled} (spreads : b.Spreads queue handled) :
    handled.map (·.signal) = queue ++ handled.flatMap Handled.followUps := by
  induction spreads with
  | done => rfl
  | next gives spreads ih => simp [ih]

/-- The events that a publication was given, and then those that were drawn with new ids. -/
structure Divided (b : Bus ω) (view : b.store.View) (events : List Signal) (w : World ω)
    (initial later : List Handled) (after : World ω) : Prop extends
    b.Carried view events w (initial ++ later) after where
  given : initial.map (·.signal) = events
  came : later.map (·.signal) = (initial ++ later).flatMap Handled.followUps
  fresh : view.Fresh events w after

theorem Carried.divided {events : List Signal} {handled : List Handled}
    (carried : b.Carried view events w handled after) (fresh : view.Fresh events w after) :
    ∃ initial later, handled = initial ++ later ∧ b.Divided view events w initial later after := by
  obtain ⟨initial, later, rfl, given, came⟩ := List.map_eq_append_iff.mp carried.spreads.signals
  exact ⟨initial, later, rfl, carried, given, came, fresh⟩

namespace Divided

variable {events : List Signal} {initial later : List Handled} {id : SignalId}
  (divided : b.Divided view events w initial later after)
include divided

theorem sublist_drawn : (later.map (·.signal.id)).Sublist (w.supply.drawn after.supply) := by
  have draws := divided.draws
  rw [← divided.came, List.map_map] at draws
  exact draws.sublist_drawn

theorem drawn_distinct : (w.supply.drawn after.supply).Nodup :=
  divided.draws.all_drawn.nodup (Nat.le_refl _) divided.fresh

theorem not_drawn (member : id ∈ w.supply.drawn after.supply) :
    id ∉ initial.map (·.signal.id) ∧ view.record w.outside id = none := by
  have unused := divided.draws.all_drawn.not_used (Nat.le_refl _) divided.fresh member
  rw [not_or, ← divided.given, List.map_map] at unused
  exact ⟨unused.1, by simpa using unused.2⟩

/-- Nothing is written but the events. -/
theorem record_other (given : id ∉ events.map (·.id)) (drawn : id ∉ w.supply.drawn after.supply) :
    view.record after.outside id = view.record w.outside id := by
  rw [divided.records]
  apply SignalRecords.after_untouched
  apply trail_publications
  rw [← divided.given, List.map_map] at given
  rw [List.map_append, List.mem_append, not_or]
  exact ⟨given, fun member => drawn (divided.sublist_drawn.subset member)⟩

theorem record_initial {before rest : List Handled} {h : Handled} (order : initial = before ++ h :: rest)
    (last : h.signal.id ∉ rest.map (·.signal.id)) : view.record after.outside h.signal.id = some h.record := by
  have member : h.signal.id ∈ initial.map (·.signal.id) := by
    simp [order]
  have only : h.signal.id ∉ (rest ++ later).map (·.signal.id) := by
    rw [List.map_append, List.mem_append, not_or]
    exact ⟨last, fun again => (divided.not_drawn (divided.sublist_drawn.subset again)).1 member⟩
  rw [divided.records, order, List.append_assoc, List.cons_append]
  exact after_last b before only _

theorem record_later {h : Handled} (member : h ∈ later) : view.record after.outside h.signal.id = some h.record := by
  obtain ⟨before, rest, rfl⟩ := List.append_of_mem member
  have distinct := divided.drawn_distinct.sublist divided.sublist_drawn
  rw [List.map_append, List.map_cons] at distinct
  have only := (List.nodup_cons.mp (List.nodup_append.mp distinct).2.1).1
  rw [divided.records, ← List.append_assoc]
  exact after_last b (initial ++ before) only _

theorem record_drawn (drawn : id ∈ w.supply.drawn after.supply) (unused : id ∉ later.map (·.signal.id)) :
    view.record after.outside id = none := by
  obtain ⟨other, nothing⟩ := divided.not_drawn drawn
  rw [divided.records, ← nothing]
  apply SignalRecords.after_untouched
  apply trail_publications
  rw [List.map_append, List.mem_append, not_or]
  exact ⟨other, unused⟩

/-- What is stored under the ids that were drawn are the later events, as they ended. -/
theorem stored_drawn : ((w.supply.drawn after.supply).filterMap fun id =>
    (view.record after.outside id).map SignalRecord.essence).Perm (later.map Handled.essence) := by
  have distinct := divided.drawn_distinct
  have sub := divided.sublist_drawn
  have only : ((w.supply.drawn after.supply).filter (· ∈ later.map (·.signal.id))).Perm (later.map (·.signal.id)) := by
    refine (List.perm_ext_iff_of_nodup (distinct.filter _) (distinct.sublist sub)).mpr fun id => ?_
    simp only [List.mem_filter, decide_eq_true_eq]
    exact ⟨fun both => both.2, fun member => ⟨sub.subset member, member⟩⟩
  have ended : (later.map (·.signal.id)).filterMap (fun id =>
      (view.record after.outside id).map SignalRecord.essence) = later.map Handled.essence := by
    rw [List.filterMap_map, ← List.filterMap_eq_map]
    refine List.filterMap_congr fun h member => ?_
    rw [Function.comp_apply, divided.record_later member]
    rfl
  rw [← ended]
  refine .trans (.of_eq ?_) (only.filterMap _)
  rw [List.filterMap_filter]
  refine List.filterMap_congr fun id drawn => ?_
  by_cases used : id ∈ later.map (·.signal.id)
  · simp [used]
  · rw [divided.record_drawn drawn used]
    simp

end Divided

end Bus

end Switchboard
