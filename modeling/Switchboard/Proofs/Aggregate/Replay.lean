import Switchboard.Proofs.Aggregate.Calls
import Switchboard.Proofs.Sample.Bench

namespace Switchboard

/-! Replay. The events that an entity reports lead every entity of its model from where it
was before them to where it is after them, and each carries the version reached with it. -/

variable {σ : Type} {model : AggregateModel σ} {s after : Snapshot σ} {event command : Signal}
  {events : List Signal} {supply : Supply}

/-- Every event carries the version that is reached with it, from a version on. -/
def Stamped (model : AggregateModel σ) : UInt64 → List Signal → Prop
  | _, [] => True
  | version, event :: rest =>
      let reached := version + if model.isStateChanging event.type then 1 else 0
      event.context.version = some reached ∧ Stamped model reached rest

namespace Snapshot

/-- What is stamped on an event plays no part when it is applied. -/
theorem apply_stamped (s : Snapshot σ) (event : Signal) (version : Option UInt64) :
    s.apply model { event with context.version := version } = s.apply model event := rfl

/-- What an event has done that has been applied. -/
theorem apply_cases (applied : s.apply model event = .ok after) :
    (model.isNeutral event.type = true ∧ after = s.mark model event.type) ∨
      ∃ applier state, model.isNeutral event.type = false ∧ model.applier? event.type = some applier ∧
        applier.apply s.state event.payload = .ok state ∧
        after = { s with state, version := s.version + 1, timestamp := event.context.timestamp }.mark model event.type := by
  unfold apply at applied
  by_cases neutral : model.isNeutral event.type = true
  · rw [if_pos neutral] at applied
    cases applied
    exact .inl ⟨neutral, rfl⟩
  · rw [if_neg neutral] at applied
    cases found : model.applier? event.type with
    | none => simp [found] at applied
    | some applier =>
        cases changed : applier.apply s.state event.payload with
        | error error => simp [found, changed] at applied
        | ok state =>
            simp only [found, changed, Except.ok.injEq] at applied
            exact .inr ⟨applier, state, Bool.eq_false_iff.mpr neutral, rfl, changed, applied.symm⟩

theorem apply_version (applied : s.apply model event = .ok after) :
    after.version = s.version + if model.isStateChanging event.type then 1 else 0 := by
  rcases apply_cases applied with ⟨neutral, rfl⟩ | ⟨applier, state, changes, found, -, rfl⟩
  · simp [mark, AggregateModel.isStateChanging, neutral]
  · simp [mark, AggregateModel.isStateChanging, changes, found]

theorem applyAll_cons (s : Snapshot σ) (event : Signal) (rest : List Signal) :
    s.applyAll model (event :: rest) = (s.apply model event).bind (·.applyAll model rest) := rfl

theorem applyAll_append (s : Snapshot σ) (first last : List Signal) :
    s.applyAll model (first ++ last) = (s.applyAll model first).bind (·.applyAll model last) := by
  induction first generalizing s with
  | nil => rfl
  | cons event rest ih =>
      rw [List.cons_append, applyAll_cons, applyAll_cons]
      cases s.apply model event with
      | error error => rfl
      | ok next => exact ih next

/-- Stamps continue over events that are applied one after another. -/
theorem stamped_append {first last : List Signal} (applied : s.applyAll model first = .ok after)
    (before : Stamped model s.version first) (later : Stamped model after.version last) :
    Stamped model s.version (first ++ last) := by
  induction first generalizing s with
  | nil =>
      cases applied
      exact later
  | cons event rest ih =>
      rw [applyAll_cons] at applied
      cases once : s.apply model event with
      | error error => simp [once, Except.bind] at applied
      | ok next =>
          rw [once] at applied
          obtain ⟨here, stamped⟩ := before
          rw [← apply_version once] at here stamped
          refine ⟨by rw [here, apply_version once], ?_⟩
          rw [← apply_version once]
          exact ih applied stamped

end Snapshot

/-- The versions stamped on events that change the state count up by one. -/
theorem Stamped.versions {version : UInt64} (stamped : Stamped model version events) :
    let changing := events.filter fun event => model.isStateChanging event.type
    changing.map (·.context.version) =
      (List.range changing.length).map fun place => some (version + .ofNat (place + 1)) := by
  induction events generalizing version with
  | nil => rfl
  | cons event rest ih =>
      obtain ⟨here, stamped⟩ := stamped
      cases changes : model.isStateChanging event.type with
      | false =>
          simp only [changes, Bool.false_eq_true, if_false, UInt64.add_zero] at stamped
          simpa [changes] using ih stamped
      | true =>
          simp only [changes, if_true] at here stamped
          have later := ih stamped
          simp only [List.filter_cons, changes, if_true, List.map_cons, List.length_cons,
            List.range_succ_eq_map, List.map_map, here, later]
          refine List.cons_eq_cons.mpr ⟨rfl, List.map_congr_left fun place _ => ?_⟩
          rw [Function.comp_apply, UInt64.ofNat_add place.succ, UInt64.add_assoc,
            UInt64.add_comm 1]
          rfl

namespace Root

/-- The first event is applied and stamped before the others are made. -/
theorem produce_cons (model : AggregateModel σ) (producer : String) (command : Signal) (s : Snapshot σ)
    (message : EventMessage) (rest : List EventMessage) (supply : Supply) :
    let made := Signal.produced message command producer none supply
    (produce model producer command s (message :: rest) supply).1 =
      (s.apply model made.1).bind fun next =>
        (produce model producer command next rest made.2).1.map fun result =>
          ({ made.1 with context.version := some next.version } :: result.1, result.2) := by
  simp only [produce, Computation.bind_apply]
  cases s.apply model (Signal.produced message command producer none supply).1 with
  | error error => rfl
  | ok next => rfl

theorem produce_cons_ok {producer : String} {message : EventMessage} {rest : List EventMessage}
    (produced : (produce model producer command s (message :: rest) supply).1 = .ok (events, after)) :
    let made := Signal.produced message command producer none supply
    ∃ next tail, s.apply model made.1 = .ok next ∧
      (produce model producer command next rest made.2).1 = .ok (tail, after) ∧
      events = { made.1 with context.version := some next.version } :: tail := by
  intro made
  rw [produce_cons] at produced
  change (s.apply model made.1).bind _ = _ at produced
  cases applied : s.apply model made.1 with
  | error error => simp [applied, Except.bind] at produced
  | ok next =>
      cases later : (produce model producer command next rest made.2).1 with
      | error error => simp [applied, made, later, Except.bind, Except.map] at produced
      | ok result =>
          obtain ⟨tail, last⟩ := result
          simp only [applied, made, later, Except.bind, Except.map, Except.ok.injEq, Prod.mk.injEq] at produced
          obtain ⟨rfl, rfl⟩ := produced
          exact ⟨next, tail, rfl, later, rfl⟩

/-- The events that a handler's messages become lead to the snapshot that goes with them. -/
theorem produce_applied {producer : String} {messages : List EventMessage}
    (produced : (produce model producer command s messages supply).1 = .ok (events, after)) :
    s.applyAll model events = .ok after ∧ Stamped model s.version events := by
  induction messages generalizing s events supply with
  | nil =>
      simp only [produce, Computation.pure_apply, Except.ok.injEq, Prod.mk.injEq] at produced
      obtain ⟨rfl, rfl⟩ := produced
      exact ⟨rfl, trivial⟩
  | cons message rest ih =>
      obtain ⟨next, tail, applied, later, rfl⟩ := produce_cons_ok produced
      obtain ⟨replayed, stamped⟩ := ih later
      have reached := Snapshot.apply_version applied
      refine ⟨?_, by rw [reached], by rw [← reached]; exact stamped⟩
      rw [Snapshot.applyAll_cons, Snapshot.apply_stamped, applied]
      exact replayed

/-- A command that succeeds changes an entity by the events that it reports, and keeps them. -/
theorem dispatch_applied {r next : Root σ}
    (dispatched : (dispatch model command r supply).1 = (.ok events, next)) :
    ∃ last, r.snapshot.applyAll model events = .ok last ∧ Stamped model r.version events ∧
      next = { r.restore last with uncommitted := r.uncommitted ++ events } := by
  obtain ⟨messages, last, -, produced, rfl⟩ := dispatch_ok dispatched
  obtain ⟨applied, stamped⟩ := produce_applied produced
  exact ⟨last, applied, stamped, rfl⟩

end Root

/-- Neither past events nor a snapshot are put into the entity. -/
def RootCall.IsLive : RootCall σ → Prop
  | .dispatch _ | .commit => True
  | .play _ | .restore _ => False

namespace Root

/-- A call reports the events by which it changes the entity. -/
theorem serve_applied {call : RootCall σ} (live : call.IsLive) (r : Root σ) (supply : Supply) :
    r.snapshot.applyAll model (serve model call r supply).1.1.produces =
      .ok (serve model call r supply).1.2.snapshot := by
  cases call with
  | play events => cases live
  | restore s => cases live
  | commit => rfl
  | dispatch command =>
      rcases dispatched : (dispatch model command r supply).1 with ⟨error | events, next⟩
      · rw [serve_dispatch_error dispatched, dispatch_failed dispatched]
        rfl
      · obtain ⟨last, applied, -, rfl⟩ := dispatch_applied dispatched
        rw [serve_dispatch_ok dispatched]
        exact applied

/-- The events that any run of commands reports, played to any entity of the same model that
starts from the same snapshot, bring it to the snapshot where the run has ended. -/
theorem play_run (model : AggregateModel σ) (live replica : Root σ) (start : Snapshot σ)
    (calls : List (RootCall σ)) (lively : ∀ call ∈ calls, call.IsLive) (supply : Supply) :
    let ended := (serveAll model calls (live.restore start) supply).1
    ∃ replayed, play model (ended.1.flatMap RootAnswer.produces) (replica.restore start) = (.ok (), replayed) ∧
      replayed.snapshot = ended.2.snapshot := by
  have applied : start.applyAll model
      ((serveAll model calls (live.restore start) supply).1.1.flatMap RootAnswer.produces) =
        .ok (serveAll model calls (live.restore start) supply).1.2.snapshot :=
    serveAll_induction (P := fun log r => start.applyAll model (log.flatMap RootAnswer.produces) = .ok r.snapshot)
      [] (fun log r u call member reached => by
        rw [List.flatMap_append, Snapshot.applyAll_append, reached, List.flatMap_singleton]
        exact serve_applied (lively call member) r u) rfl
  exact ⟨_, play_ok applied, snapshot_restore _ _⟩

open Sample Bench in
/-- The events of a first experiment are taken, a second one fails halfway, and a third one seals the specimen. -/
theorem play_run_bench :
    let start := specimen.snapshot
    let calls := [.dispatch (experiment [adding, muting]), .commit, .dispatch (experiment [removing, orphaning]),
      .dispatch (experiment [sealing])]
    (∀ call ∈ calls, call.IsLive) ∧
      let ended := (serveAll Lab.model calls (specimen.restore start) Branch.supply).1
      ended.2.version = 2 ∧ ended.2.lifecycle = ⟨true, false⟩ ∧
        ∃ replayed, play Lab.model (ended.1.flatMap RootAnswer.produces) (specimen.restore start) = (.ok (), replayed) ∧
          replayed.snapshot = ended.2.snapshot := by
  have lively : ∀ call ∈ [RootCall.dispatch (experiment [adding, muting]), .commit,
      .dispatch (experiment [removing, orphaning]), .dispatch (experiment [sealing])],
      (call : RootCall Lab).IsLive := by
    simp [RootCall.IsLive]
  have replayed := play_run Lab.model specimen specimen specimen.snapshot _ lively Branch.supply
  exact ⟨lively, by decide +kernel, by decide +kernel, replayed⟩

end Root
end Switchboard
