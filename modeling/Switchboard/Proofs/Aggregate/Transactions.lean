import Switchboard.Proofs.Aggregate.Applicability
import Switchboard.Proofs.Sample.Bench

namespace Switchboard.Root

/-! Transactions. A history is played, and a command is handled, to the end or not at all. -/

variable {σ : Type} {model : AggregateModel σ}

theorem play_iff (built : model.Built) (r : Root σ) (events : List Signal) :
    ((∃ next, play model events r = (.ok (), next)) ↔ ∀ event ∈ events, model.Applicable event.eventMessage) ∧
    ∀ error, play model events r = (.error error, r) ↔ model.Obstructs (events.map Signal.eventMessage) error := by
  rcases built.applicable_or_obstructs (events.map Signal.eventMessage) with applicable | ⟨cause, obstructs⟩
  · obtain ⟨s, applied⟩ := r.snapshot.applyAll_applicable applicable
    have played := play_ok applied
    refine ⟨iff_of_true ⟨_, played⟩ (List.forall_mem_map.mp applicable), fun error => ⟨?_, ?_⟩⟩
    · intro failed
      cases played.symm.trans failed
    · intro obstructs
      cases played.symm.trans (play_error (r.snapshot.applyAll_obstructed obstructs))
  · have failed : play model events r = (.error cause, r) := play_error (r.snapshot.applyAll_obstructed obstructs)
    refine ⟨⟨?_, ?_⟩, fun error => ⟨?_, ?_⟩⟩
    · rintro ⟨next, played⟩
      cases failed.symm.trans played
    · intro applicable
      obtain ⟨s, applied⟩ := r.snapshot.applyAll_applicable (List.forall_mem_map.mpr applicable)
      exact ⟨_, play_ok applied⟩
    · intro same
      cases failed.symm.trans same
      exact obstructs
    · intro others
      exact play_error (r.snapshot.applyAll_obstructed others)

theorem dispatch_iff (built : model.Built) (r : Root σ) (command : Signal) (u : Supply) :
    ((∃ events next, (dispatch model command r u).1 = (.ok events, next)) ↔
      ∀ error, ¬ r.Fails model command error) ∧
    ∀ error, (dispatch model command r u).1 = (.error error, r) ↔ r.Fails model command error := by
  rcases dispatch_or_fails built r command u with ⟨events, next, produced⟩ | ⟨cause, fails⟩
  · have none : ∀ error, ¬ r.Fails model command error := fun error fails =>
      nomatch produced.symm.trans (fails.dispatch u)
    refine ⟨iff_of_true ⟨events, next, produced⟩ none, fun error => iff_of_false ?_ (none error)⟩
    intro same
    cases produced.symm.trans same
  · refine ⟨iff_of_false ?_ fun none => none cause fails, fun error => ⟨?_, fun fails => fails.dispatch u⟩⟩
    · rintro ⟨events, next, produced⟩
      cases (fails.dispatch u).symm.trans produced
    · intro same
      cases (fails.dispatch u).symm.trans same
      exact fails

/-- Calls are transactions. A history is played exactly if all of its events are applicable, and otherwise
gives the error of the first that is not; a command succeeds exactly if there is no cause for it to fail, and
otherwise gives the error of the first cause. Whatever fails leaves the entity as it was in every respect. -/
theorem transactional (built : model.Built) (r : Root σ) :
    (∀ events : List Signal,
      ((∃ next, play model events r = (.ok (), next)) ↔ ∀ event ∈ events, model.Applicable event.eventMessage) ∧
      (∀ error, play model events r = (.error error, r) ↔
        model.Obstructs (events.map Signal.eventMessage) error) ∧
      ∀ error next, play model events r = (.error error, next) → next = r) ∧
    ∀ (command : Signal) (u : Supply),
      ((∃ events next, (dispatch model command r u).1 = (.ok events, next)) ↔
        ∀ error, ¬ r.Fails model command error) ∧
      (∀ error, (dispatch model command r u).1 = (.error error, r) ↔ r.Fails model command error) ∧
      ∀ error next, (dispatch model command r u).1 = (.error error, next) → next = r := by
  refine ⟨fun events => ?_, fun command u => ?_⟩
  · obtain ⟨succeeds, fails⟩ := play_iff built r events
    exact ⟨succeeds, fails, fun _ _ => play_failed⟩
  · obtain ⟨succeeds, fails⟩ := dispatch_iff built r command u
    exact ⟨succeeds, fails, fun _ _ => dispatch_failed⟩

open Sample Bench in
/-- A specimen is to be removed, and something is added to it, before something comes up that nothing applies.
It is still there as it was, whether this is its history or comes of an experiment. -/
theorem transactional_bench :
    Lab.model.Built ∧
      let failure : AggregateError := .configuration (.missingApplier "lab" orphan.name)
      let messages := [removing, adding, orphaning, sealing]
      play Lab.model (messages.map (event 7)) specimen = (.error failure, specimen) ∧
        (dispatch Lab.model (experiment messages) specimen Branch.supply).1 = (.error failure, specimen) := by
  have obstructs : Lab.model.Obstructs [removing, adding, orphaning, sealing]
      (.configuration (.missingApplier "lab" orphan.name)) :=
    .later (.neutral rfl) (.later (.readable rfl rfl) (.here (.undeclared rfl rfl)))
  have known : Lab.model.handler? Experiment.type.name = some (.reading Experiment.type fun _ m _ => Lab.run m) := rfl
  have read : (experiment [removing, adding, orphaning, sealing]).payload.decode Experiment.type.decode =
      .ok ⟨"x", [removing, adding, orphaning, sealing], none, none, false⟩ := rfl
  have judges := Judges.of (r := specimen) known read
  obtain ⟨plays, dispatches⟩ := transactional model_built specimen
  refine ⟨model_built, ((plays _).2.1 _).mpr ?_, ((dispatches _ _).2.1 _).mpr ?_⟩
  · exact obstructs
  · exact .obstructed judges obstructs

end Switchboard.Root
