import Switchboard.Proofs.Bus.Pipeline

namespace Switchboard

/-! How a signal is handled: it is delivered to its consumers in their order, each once for
every entry, and settled when all of them have answered. -/

variable {ω : Type}

def deliveries (calls : List Call) : List (String × Signal) := calls.filterMap Call.delivery?

@[simp] theorem deliveries_append (first last : List Call) :
    deliveries (first ++ last) = deliveries first ++ deliveries last :=
  List.filterMap_append ..

/-- The calls by which a signal is delivered to all its consumers, with these outcomes. -/
def answered (signal : Signal) (consumers : List (Consumer ω)) (outcomes : List Outcome) : List Call :=
  List.zipWith (fun c outcome => .deliver c.id signal (.ok outcome)) consumers outcomes

namespace Bus

/-- Who gets a signal, each as often as he stands there for it. -/
def recipients (b : Bus ω) (signal : Signal) : List (String × Signal) :=
  ((b.registry signal.kind).consumers signal.type).map fun c => (c.id, signal)

variable {b : Bus ω} {signal : Signal} {consumers : List (Consumer ω)} {calls : List Call}

theorem Each.delivered {result : Except Halt (List Outcome)}
    (each : Each (Delivers signal) consumers calls result) :
    deliveries calls <+: consumers.map (fun c => (c.id, signal)) ∧
      (consumers ≠ [] → deliveries calls ≠ []) ∧ ∀ outcomes, result = .ok outcomes →
        outcomes.length = consumers.length ∧ calls = answered signal consumers outcomes ∧
          deliveries calls = consumers.map fun c => (c.id, signal) := by
  induction each with
  | nil =>
      refine ⟨List.nil_prefix, (absurd rfl ·), ?_⟩
      rintro outcomes ⟨⟩
      exact ⟨rfl, rfl, rfl⟩
  | @broken c rest calls halt here =>
      cases here with
      | broken error =>
          refine ⟨⟨rest.map fun c => (c.id, signal), rfl⟩, fun _ => List.cons_ne_nil _ _, ?_⟩
          rintro outcomes ⟨⟩
  | @next c rest calls more outcome result here later ih =>
      cases here with
      | answered outcome =>
          obtain ⟨some, -, all⟩ := ih
          refine ⟨List.cons_prefix_cons.mpr ⟨rfl, some⟩, fun _ => List.cons_ne_nil _ _, ?_⟩
          intro outcomes done
          cases result with
          | error halt => cases done
          | ok others =>
              cases done
              obtain ⟨lengths, same, delivered⟩ := all others rfl
              refine ⟨congrArg (· + 1) lengths, congrArg (_ :: ·) same, congrArg (_ :: ·) delivered⟩

theorem Each.delivering {result : Except Halt (List Outcome)}
    (each : Each (Delivers signal) consumers calls result) :
    ∀ call ∈ calls, ∃ c answer, call = .deliver c signal answer := by
  induction each with
  | nil => simp
  | broken here =>
      cases here
      simp
  | next here later ih =>
      cases here
      intro call member
      rcases List.mem_append.mp member with member | member
      · exact ⟨_, _, List.mem_singleton.mp member⟩
      · exact ih call member

/-- The calls by which a signal is handled to the end, with these outcomes of its consumers. -/
def handled (b : Bus ω) (signal : Signal) (outcomes : List Outcome) : List Call :=
  answered signal ((b.registry signal.kind).consumers signal.type) outcomes ++
    [.save signal (settledOutcome signal outcomes).status
      (settledError (settledOutcome signal outcomes)) (.ok ())]

theorem deliveries_handled {outcomes : List Outcome}
    (lengths : outcomes.length = ((b.registry signal.kind).consumers signal.type).length) :
    deliveries (b.handled signal outcomes) = b.recipients signal := by
  unfold handled recipients
  generalize (b.registry signal.kind).consumers signal.type = consumers at lengths ⊢
  rw [deliveries_append]
  change deliveries (answered signal consumers outcomes) ++ [] = _
  rw [List.append_nil]
  induction consumers generalizing outcomes with
  | nil => rfl
  | cons c rest ih =>
      obtain ⟨outcome, others, rfl⟩ := List.exists_cons_of_length_eq_add_one lengths
      have left : others.length = rest.length := by simpa using lengths
      exact congrArg (_ :: ·) (ih left)

theorem Processes.done {outcome : Outcome} {followUps : List Signal}
    (processed : b.Processes signal calls (.ok (outcome, followUps))) :
    ∃ outcomes, outcomes.length = ((b.registry signal.kind).consumers signal.type).length ∧
      calls = b.handled signal outcomes ∧ outcome = settledOutcome signal outcomes ∧
      followUps = outcomes.flatMap Outcome.followUps := by
  cases processed with
  | settled delivered merged gathered =>
      obtain ⟨lengths, same, -⟩ := delivered.delivered.2.2 _ rfl
      refine ⟨_, lengths, ?_, merged, gathered⟩
      rw [handled, ← merged, same]

theorem CarriesOut.done {outcome : Outcome} (carried : b.CarriesOut signal calls (.ok outcome)) :
    ∃ outcomes published,
      outcomes.length = ((b.registry signal.kind).consumers signal.type).length ∧
      calls = b.handled signal outcomes ++ published ∧ outcome = settledOutcome signal outcomes ∧
      b.Publishes (outcomes.flatMap Outcome.followUps) published (.ok ()) := by
  cases carried with
  | published processed published =>
      obtain ⟨outcomes, lengths, same, merged, gathered⟩ := processed.done
      rw [gathered] at published
      exact ⟨outcomes, _, lengths, by rw [same], merged, published⟩

theorem Acknowledges.deliveries_eq {signals : List Signal} {ack : Ack} {result : Except Halt Unit}
    (told : b.Acknowledges signals ack calls result) : deliveries calls = [] := by
  cases told <;> rfl

/-- The ways of a post that comes to an outcome. -/
inductive Accepted (b : Bus ω) (signals : List Signal) (now : UInt64) (signal : Signal) :
    List Call → Outcome → Prop where
  | unsupported {told : List Call} (unknown : (b.registry signal.kind).class? signal.type = none)
      (acknowledged : b.Acknowledges signals (.error signal.id (unsupportedRecord signal)) told (.ok ())) :
      Accepted b signals now signal told (.failure (unsupportedRecord signal))
  | refused {message : MessageClass} {defect : SignalDefect} {told : List Call}
      (known : (b.registry signal.kind).class? signal.type = some message)
      (found : b.defect? signal message = some defect)
      (acknowledged : b.Acknowledges signals (.error signal.id defect.record) told (.ok ())) :
      Accepted b signals now signal (.save signal .error (some defect.record) (.ok ()) :: told)
        (.failure defect.record)
  | scheduled {message : MessageClass} {told : List Call}
      (known : (b.registry signal.kind).class? signal.type = some message)
      (sound : b.defect? signal message = none) (delayed : signal.context.isDelayed now = true)
      (acknowledged : b.Acknowledges signals (.ok signal.id) told (.ok ())) :
      Accepted b signals now signal (.save signal .scheduled none (.ok ()) :: told) (.success [])
  | handled {message : MessageClass} {told published : List Call} {outcomes : List Outcome}
      (known : (b.registry signal.kind).class? signal.type = some message)
      (sound : b.defect? signal message = none) (due : signal.context.isDelayed now = false)
      (acknowledged : b.Acknowledges signals (.ok signal.id) told (.ok ()))
      (lengths : outcomes.length = ((b.registry signal.kind).consumers signal.type).length)
      (publishes : b.Publishes (outcomes.flatMap Outcome.followUps) published (.ok ())) :
      Accepted b signals now signal
        (.save signal .received none (.ok ()) :: (told ++ (b.handled signal outcomes ++ published)))
        (settledOutcome signal outcomes)

theorem Accepts.accepted {signals : List Signal} {now : UInt64} {outcome : Outcome}
    (accepts : b.Accepts signals now signal calls (.ok outcome)) :
    b.Accepted signals now signal calls outcome := by
  generalize came : (.ok outcome : Except Halt Outcome) = result at accepts
  cases accepts with
  | @unsupported _ told unknown acknowledged =>
      cases told with
      | error halt => cases came
      | ok _ =>
          cases came
          exact .unsupported unknown acknowledged
  | unsaved known admitted cause => cases came
  | @refused _ _ _ told known found acknowledged =>
      cases told with
      | error halt => cases came
      | ok _ =>
          cases came
          exact .refused known found acknowledged
  | @scheduled _ _ told known sound delayed acknowledged =>
      cases told with
      | error halt => cases came
      | ok _ =>
          cases came
          exact .scheduled known sound delayed acknowledged
  | untold known sound due told => cases came
  | carried known sound due told carried =>
      subst came
      obtain ⟨outcomes, published, lengths, rfl, rfl, publishes⟩ := carried.done
      exact .handled known sound due told lengths publishes

namespace Accepted

variable {signals : List Signal} {now : UInt64} {outcome : Outcome} {message : MessageClass}

theorem of_unknown (accepted : b.Accepted signals now signal calls outcome)
    (unknown : (b.registry signal.kind).class? signal.type = none) :
    outcome = .failure (unsupportedRecord signal) ∧
      b.Acknowledges signals (.error signal.id (unsupportedRecord signal)) calls (.ok ()) := by
  cases accepted with
  | unsupported unknown acknowledged => exact ⟨rfl, acknowledged⟩
  | refused known found acknowledged => cases unknown.symm.trans known
  | scheduled known sound delayed acknowledged => cases unknown.symm.trans known
  | handled known sound due acknowledged lengths publishes => cases unknown.symm.trans known

theorem of_defect {defect : SignalDefect} (accepted : b.Accepted signals now signal calls outcome)
    (known : (b.registry signal.kind).class? signal.type = some message)
    (found : b.defect? signal message = some defect) :
    outcome = .failure defect.record ∧ ∃ told,
      calls = .save signal .error (some defect.record) (.ok ()) :: told ∧
      b.Acknowledges signals (.error signal.id defect.record) told (.ok ()) := by
  cases accepted with
  | unsupported unknown acknowledged => cases unknown.symm.trans known
  | refused other same acknowledged =>
      cases other.symm.trans known
      cases same.symm.trans found
      exact ⟨rfl, _, rfl, acknowledged⟩
  | scheduled other sound delayed acknowledged =>
      cases other.symm.trans known
      cases sound.symm.trans found
  | handled other sound due acknowledged lengths publishes =>
      cases other.symm.trans known
      cases sound.symm.trans found

theorem of_delayed (accepted : b.Accepted signals now signal calls outcome)
    (known : (b.registry signal.kind).class? signal.type = some message)
    (sound : b.defect? signal message = none) (delayed : signal.context.isDelayed now = true) :
    outcome = .success [] ∧ ∃ told, calls = .save signal .scheduled none (.ok ()) :: told ∧
      b.Acknowledges signals (.ok signal.id) told (.ok ()) := by
  cases accepted with
  | unsupported unknown acknowledged => cases unknown.symm.trans known
  | refused other found acknowledged =>
      cases other.symm.trans known
      cases found.symm.trans sound
  | scheduled other same late acknowledged => exact ⟨rfl, _, rfl, acknowledged⟩
  | handled other same due acknowledged lengths publishes => cases due.symm.trans delayed

theorem of_due (accepted : b.Accepted signals now signal calls outcome)
    (known : (b.registry signal.kind).class? signal.type = some message)
    (sound : b.defect? signal message = none) (due : signal.context.isDelayed now = false) :
    ∃ told outcomes published,
      calls = .save signal .received none (.ok ()) :: (told ++ (b.handled signal outcomes ++ published)) ∧
      outcome = settledOutcome signal outcomes ∧ b.Acknowledges signals (.ok signal.id) told (.ok ()) ∧
      outcomes.length = ((b.registry signal.kind).consumers signal.type).length ∧
      b.Publishes (outcomes.flatMap Outcome.followUps) published (.ok ()) := by
  cases accepted with
  | unsupported unknown acknowledged => cases unknown.symm.trans known
  | refused other found acknowledged =>
      cases other.symm.trans known
      cases found.symm.trans sound
  | scheduled other same delayed acknowledged => cases delayed.symm.trans due
  | handled other same early acknowledged lengths publishes =>
      exact ⟨_, _, _, rfl, rfl, acknowledged, lengths, publishes⟩

end Accepted

end Bus

end Switchboard
