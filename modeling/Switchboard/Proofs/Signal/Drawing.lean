import Mathlib.Data.List.Nodup
import Switchboard.Outcome
import Switchboard.Proofs.Aggregate.Calls

namespace Switchboard

/-! Ids come from the supply. Whatever is made of a signal has ids that are drawn while it is
made, in their order. -/

variable {α σ : Type}

namespace Supply

/-- These ids are among those that were drawn between two states of a supply. -/
structure Draws (start : Supply) (ids : List SignalId) (later : Supply) : Prop where
  source : later.ids = start.ids
  drawn : ∃ count, later.idsDrawn = start.idsDrawn + count ∧
    ids.Sublist ((List.range' start.idsDrawn count).map start.ids)

/-- The ids to be drawn up to a point are all different, and none of them is used. -/
structure Fresh (start : Supply) (stop : Nat) (used : SignalId → Prop) : Prop where
  unused : ∀ {n}, start.idsDrawn ≤ n → n < stop → ¬ used (start.ids n)
  distinct : ∀ {m n}, start.idsDrawn ≤ m → m < stop → start.idsDrawn ≤ n → n < stop →
    start.ids m = start.ids n → m = n

variable {start middle later : Supply} {first last ids : List SignalId} {stop : Nat}
  {used more : SignalId → Prop}

namespace Draws

theorem refl (start : Supply) : start.Draws [] start := ⟨rfl, 0, rfl, .slnil⟩

theorem trans (before : start.Draws first middle) (after : middle.Draws last later) :
    start.Draws (first ++ last) later := by
  obtain ⟨source, n, first_count, first_drawn⟩ := before
  obtain ⟨same, m, last_count, last_drawn⟩ := after
  rw [source, first_count] at last_drawn
  refine ⟨same.trans source, n + m, by omega, ?_⟩
  rw [← List.range'_append_1, List.map_append]
  exact first_drawn.append last_drawn

theorem of_sublist (draws : start.Draws last later) (fewer : first.Sublist last) :
    start.Draws first later := by
  obtain ⟨source, count, counted, drawn⟩ := draws
  exact ⟨source, count, counted, fewer.trans drawn⟩

theorem none (draws : start.Draws ids later) : start.Draws [] later :=
  draws.of_sublist (List.nil_sublist ids)

theorem le (draws : start.Draws ids later) : start.idsDrawn ≤ later.idsDrawn := by
  obtain ⟨-, count, counted, -⟩ := draws
  omega

theorem mem (draws : start.Draws ids later) {id : SignalId} (member : id ∈ ids) :
    ∃ n, start.idsDrawn ≤ n ∧ n < later.idsDrawn ∧ id = start.ids n := by
  obtain ⟨-, count, counted, drawn⟩ := draws
  obtain ⟨n, within, rfl⟩ := List.mem_map.mp (drawn.subset member)
  have bounds := List.mem_range'_1.mp within
  exact ⟨n, bounds.1, by omega, rfl⟩

theorem nodup (draws : start.Draws ids later) (within : later.idsDrawn ≤ stop)
    (fresh : start.Fresh stop used) : ids.Nodup := by
  obtain ⟨-, count, counted, drawn⟩ := draws
  refine drawn.nodup (List.Nodup.map_on ?_ List.nodup_range')
  intro m hm n hn same
  have first := List.mem_range'_1.mp hm
  have last := List.mem_range'_1.mp hn
  exact fresh.distinct first.1 (by omega) last.1 (by omega) same

theorem not_used (draws : start.Draws ids later) (within : later.idsDrawn ≤ stop)
    (fresh : start.Fresh stop used) {id : SignalId} (member : id ∈ ids) : ¬ used id := by
  obtain ⟨n, from_start, before, rfl⟩ := draws.mem member
  exact fresh.unused from_start (by omega)

end Draws

theorem Fresh.mono (fresh : start.Fresh stop used) (fewer : ∀ id, more id → used id) :
    start.Fresh stop more :=
  ⟨fun from_start before taken => fresh.unused from_start before (fewer _ taken), fresh.distinct⟩

/-- What is fresh stays so, with all that is drawn meanwhile among the used. -/
theorem Fresh.after (fresh : start.Fresh stop used) (draws : start.Draws ids later) :
    later.Fresh stop fun id => used id ∨ id ∈ ids := by
  obtain ⟨source, count, counted, drawn⟩ := draws
  constructor
  · intro n from_later below
    rw [source]
    rintro (before | between)
    · exact fresh.unused (by omega) below before
    · obtain ⟨m, within, same⟩ := List.mem_map.mp (drawn.subset between)
      have bounds := List.mem_range'_1.mp within
      have equal := fresh.distinct bounds.1 (by omega) (by omega : start.idsDrawn ≤ n) below same
      omega
  · intro m n hm belowM hn belowN same
    rw [source] at same
    exact fresh.distinct (by omega) belowM (by omega) belowN same

theorem now_draws (start : Supply) : start.Draws [] (now start).2 :=
  ⟨rfl, 0, rfl, .slnil⟩

end Supply

/-- The ids of the signals that are published after an outcome. -/
def Outcome.newIds (outcome : Outcome) : List SignalId := outcome.followUps.map (·.id)

variable {model : AggregateModel σ}

theorem produced_draws (message : EventMessage) (origin : Signal) (producer : String)
    (version : Option UInt64) (supply : Supply) :
    supply.Draws [(Signal.produced message origin producer version supply).1.id]
      (Signal.produced message origin producer version supply).2 :=
  ⟨rfl, 1, rfl, List.Sublist.refl _⟩

theorem mapM_draws {make : α → StateM Supply Signal}
    (each : ∀ item (supply : Supply), supply.Draws [(make item supply).1.id] (make item supply).2)
    (items : List α) (supply : Supply) :
    supply.Draws ((items.mapM make supply).1.map (·.id)) (items.mapM make supply).2 := by
  induction items generalizing supply with
  | nil => exact .refl supply
  | cons item rest ih =>
      rw [List.mapM_cons]
      exact (each item supply).trans (ih _)

theorem ofHandlerError_draws (error : HandlerError) (command : Signal) (supply : Supply) :
    supply.Draws (Outcome.ofHandlerError error command supply).1.newIds
      (Outcome.ofHandlerError error command supply).2 := by
  cases error with
  | rejected rejection => exact produced_draws rejection.eventMessage command Rejection.producer none supply
  | failed type message => exact .refl supply

namespace Root

variable (model)

theorem produce_draws (producer : String) (command : Signal) (s : Snapshot σ)
    (messages : List EventMessage) (supply : Supply) :
    supply.Draws [] (produce model producer command s messages supply).2 ∧
      ∀ {events last}, (produce model producer command s messages supply).1 = .ok (events, last) →
        supply.Draws (events.map (·.id)) (produce model producer command s messages supply).2 := by
  induction messages generalizing s supply with
  | nil =>
      refine ⟨.refl supply, ?_⟩
      intro events last done
      cases done
      exact .refl supply
  | cons message rest ih =>
      have made := produced_draws message command producer none supply
      simp only [produce, Computation.bind_apply]
      generalize Signal.produced message command producer none supply = first at made ⊢
      obtain ⟨event, middle⟩ := first
      cases applied : s.apply model event with
      | error error =>
          refine ⟨made.none, ?_⟩
          intro events last done
          cases done
      | ok next =>
          have others := ih next middle
          simp only [Computation.bind_apply, Computation.pure_apply]
          generalize produce model producer command next rest middle = second at others ⊢
          obtain ⟨result, later⟩ := second
          refine ⟨made.none.trans others.1, ?_⟩
          intro events last done
          cases result with
          | error error => cases done
          | ok both =>
              cases done
              exact made.trans (others.2 rfl)

theorem dispatch_draws (r : Root σ) (command : Signal) (supply : Supply) :
    supply.Draws [] (dispatch model command r supply).2 ∧
      ∀ {events root}, (dispatch model command r supply).1 = (.ok events, root) →
        supply.Draws (events.map (·.id)) (dispatch model command r supply).2 := by
  obtain ⟨error, failed⟩ | ⟨messages, -, outcome⟩ := dispatch_cases model r command supply
  · rw [failed]
    exact ⟨.refl supply, fun done => nomatch done⟩
  · have made := produce_draws model r.key.id command r.snapshot messages supply
    obtain ⟨error, failed⟩ | ⟨events, last, produced, done⟩ := outcome
    · rw [failed]
      exact ⟨made.1, fun done => nomatch done⟩
    · rw [done]
      refine ⟨made.1, ?_⟩
      intro events root same
      cases same
      exact made.2 produced

end Root

end Switchboard
