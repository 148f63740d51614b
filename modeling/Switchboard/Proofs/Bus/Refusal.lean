import Switchboard.Proofs.Bus.Keeping
import Switchboard.Proofs.Bus.Settlement
import Switchboard.Proofs.Consumer.Refusal
import Switchboard.Proofs.Sample.Kiosk

namespace Switchboard

/-! What becomes of a signal that its only consumer refuses. A rejection is settled as such and told
of by one event; a failure is settled as such and told of by none. -/

variable {ω α β κ : Type} {see : ω → κ}

namespace Bus

variable {b : Bus ω} {observer : Observer ω} {signal : Signal} {message : MessageClass} {fuel : Nat}
  {c : Consumer ω} {w after : World ω} {outcome : Outcome}

/-- What is done with a signal that is accepted and due, before it is delivered. -/
def receive (b : Bus ω) (observer : Observer ω) (signal : Signal) : Run ω Unit := do
  let _ ← Run.acting (Act.drawing Supply.now)
  b.save signal .received none
  Run.notifying (b.monitored observer [signal]) (.ok signal.id)

theorem post_received (known : (b.registry signal.kind).class? signal.type = some message)
    (sound : b.defect? signal message = none) (due : signal.context.isDelayed (Supply.now w.supply).1 = false) :
    b.post fuel observer signal w = (do b.receive observer signal; b.carryOut fuel signal : Run ω Outcome) w := by
  have clock : Run.acting (Act.drawing Supply.now) w = _ := Run.acting_apply _ w
  simp only [post, accept, known, sound, receive, bind_assoc]
  rw [Run.bind_ok clock, Run.bind_ok clock, Computation.drawing_apply, if_neg (by simp [due])]

theorem receive_keeps (keeps : b.Keeps see) (quiet : observer.Keeps see) (signal : Signal) :
    Run.Keeps see (b.receive observer signal) := by
  have clock : Run.Keeps see (Run.acting (Act.drawing Supply.now) : Run ω UInt64) := fun _ => rfl
  exact clock.bind fun _ => (save_keeps keeps signal _ _).bind fun _ =>
    .notifying (monitored_keeps keeps.system quiet [signal]) _

theorem receive_record {view : b.store.View}
    (system : ∀ {post}, b.system = some post → ∀ event outside, view.record (post event outside).2 = view.record outside)
    (discreet : observer.Apart view) (received : b.receive observer signal w = (.ok (), after)) :
    view.record after.outside =
      Function.update (view.record w.outside) signal.id (some ⟨signal, .received, none⟩) := by
  rw [receive, Run.bind_ok (Run.acting_apply _ w)] at received
  obtain ⟨_, middle, saved, told⟩ := Run.of_bind_ok received
  have quiet := Run.Keeps.notifying (monitored_keeps system (fun ack w => (discreet ack w).1) [signal])
    (.ok signal.id) middle
  have written : view.record middle.outside = _ := save_record saved
  rw [told] at quiet
  exact quiet.trans written

/-- A signal with one consumer is settled with what that one says. -/
theorem carryOut_single (only : (b.registry signal.kind).consumers signal.type = [c])
    (given : c.deliver signal w = (.ok outcome, after)) :
    b.carryOut fuel signal w = (do
      b.save signal outcome.status (settledError outcome)
      b.publish fuel outcome.followUps
      return outcome : Run ω Outcome) after := by
  have delivered : b.deliver signal w = (.ok [outcome], after) := by
    rw [deliver, only, List.mapM_cons, List.mapM_nil, bind_assoc, Run.bind_ok (Run.acting_apply _ w), given]
    rfl
  rw [carryOut, process, bind_assoc, Run.bind_ok delivered, settledOutcome_single]
  simp only [bind_assoc, pure_bind, List.flatMap_singleton]

theorem handled_single (only : (b.registry signal.kind).consumers signal.type = [c]) (outcome : Outcome) :
    b.handled signal [outcome] =
      [.deliver c.id signal (.ok outcome), .save signal outcome.status (settledError outcome) (.ok ())] := by
  rw [handled, only, settledOutcome_single]
  rfl

/-- Of all that is published after some events, nothing else names their origin. -/
theorem Publishes.only_origin {events : List Signal} {past published : List Call} {result : Except Halt Unit}
    {id : SignalId} (publishes : b.Publishes events published result) (told : Inherited published)
    (drawn : ∀ event ∈ events, event.id ∈ newIds past) (unused : id ∉ newIds (past ++ published)) :
    ∀ stored status error answer, .save stored status error answer ∈ published →
      stored.context.origin = some id → stored ∈ events := by
  -- whatever is stored later has a drawn id itself, so it cannot pass the origin on
  have heritable : Heritable fun past stored => id ∉ newIds past →
      stored.id ≠ id ∧ (stored ∈ events ∨ stored.context.origin ≠ some id) := by
    constructor
    · intro past more stored known unused
      rw [newIds_append, List.mem_append, not_or] at unused
      exact known unused.1
    · intro past next parent known produced unused
      obtain ⟨consumer, outcome, delivered, reported⟩ := produced.reported
      have among : next.id ∈ newIds past :=
        List.mem_flatMap.mpr ⟨_, delivered, List.mem_map_of_mem reported⟩
      refine ⟨fun same => unused (same ▸ among), .inr ?_⟩
      rw [produced.inherits.origin]
      exact fun same => (known unused).1 (Option.some.inj same)
  have knowing : Knowing _ past published := publishes.knowing heritable told fun event member unused =>
    ⟨fun same => unused (same ▸ drawn event member), .inl member⟩
  intro stored status error answer member origin
  obtain ⟨before, rest, rfl⟩ := List.append_of_mem member
  have apart : id ∉ newIds (past ++ before) := fun among => unused (by
    rw [← List.append_assoc, newIds_append]
    exact List.mem_append_left _ among)
  exact ((knowing.at rfl) apart).2.resolve_right (absurd origin)

/-- What a post comes to has been settled before anything is published. -/
theorem post_settles (known : (b.registry signal.kind).class? signal.type = some message)
    (sound : b.defect? signal message = none) (due : signal.context.isDelayed (Supply.now w.supply).1 = false)
    (only : (b.registry signal.kind).consumers signal.type = [c])
    (posted : b.post fuel observer signal w = (.ok outcome, after)) :
    ∃ received, b.receive observer signal w = (.ok (), received) ∧
      ∀ {given delivered}, c.deliver signal received = (.ok given, delivered) → given = outcome ∧
        ∃ settled, b.save signal outcome.status (settledError outcome) delivered = (.ok (), settled) ∧
          b.publish fuel outcome.followUps settled = (.ok (), after) := by
  rw [post_received known sound due] at posted
  obtain ⟨_, received, heard, carried⟩ := Run.of_bind_ok posted
  refine ⟨received, heard, fun {given delivered} answered => ?_⟩
  rw [carryOut_single only answered] at carried
  obtain ⟨_, settled, saved, rest⟩ := Run.of_bind_ok carried
  obtain ⟨_, last, published, ended⟩ := Run.of_bind_ok rest
  cases ended
  exact ⟨rfl, settled, saved, published⟩

/-- A signal with one consumer that is accepted at once is delivered, settled, and published for. -/
theorem post_single (known : (b.registry signal.kind).class? signal.type = some message)
    (sound : b.defect? signal message = none) (due : signal.context.isDelayed (Supply.now w.supply).1 = false)
    (only : (b.registry signal.kind).consumers signal.type = [c])
    (posted : b.post fuel observer signal w = (.ok outcome, after)) :
    ∃ told published,
      b.recorded.post fuel observer.recorded signal (w.recorded []) = (.ok outcome, after.recorded
        (.save signal .received none (.ok ()) :: (told ++ (b.handled signal [outcome] ++ published)))) ∧
      b.Steps observer w
        (.save signal .received none (.ok ()) :: (told ++ (b.handled signal [outcome] ++ published))) after ∧
      b.Acknowledges [signal] (.ok signal.id) told (.ok ()) ∧ b.Publishes outcome.followUps published (.ok ()) := by
  obtain ⟨calls, accepts, steps, same⟩ := post_traced (b := b) fuel observer signal w
  rw [posted] at accepts steps same
  obtain ⟨told, outcomes, published, rfl, merged, acknowledged, lengths, publishes⟩ :=
    accepts.accepted.of_due known sound due
  obtain ⟨single, rfl⟩ := List.length_eq_one_iff.mp (lengths.trans (congrArg List.length only))
  rw [settledOutcome_single] at merged
  obtain rfl := merged
  rw [List.flatMap_singleton] at publishes
  exact ⟨told, published, same [], steps, acknowledged, publishes⟩

theorem Steps.single {view : b.store.View} {told published : List Call} (apart : b.Apart view)
    (discreet : observer.Apart view) (only : (b.registry signal.kind).consumers signal.type = [c])
    (steps : b.Steps observer w
      (.save signal .received none (.ok ()) :: (told ++ (b.handled signal [outcome] ++ published))) after)
    (publishes : b.Publishes outcome.followUps published (.ok ()))
    (unused : ∀ n, w.supply.idsDrawn ≤ n → n < after.supply.idsDrawn → w.supply.ids n ≠ signal.id) :
    view.record after.outside signal.id = some ⟨signal, outcome.status, settledError outcome⟩ ∧
      ∀ stored status error answer, .save stored status error answer ∈ published →
        stored.context.origin = some signal.id → stored ∈ outcome.followUps := by
  have progress := steps.progress apart discreet
  have inherited := steps.inherited fun member => (apart.consumers member).plain
  have undrawn : signal.id ∉ newIds (b.handled signal [outcome] ++ published) := by
    intro among
    have drawn : signal.id ∈ newIds (told ++ (b.handled signal [outcome] ++ published)) := by
      rw [newIds_append]
      exact List.mem_append_right _ among
    obtain ⟨n, later, before, equal⟩ := progress.draws.mem drawn
    exact unused n later before equal.symm
  constructor
  · have lengths : [outcome].length = ((b.registry signal.kind).consumers signal.type).length := by rw [only]; rfl
    have recorded := handled_record (List.flatMap_singleton Outcome.followUps outcome ▸ publishes) lengths undrawn
    rw [progress.records]
    change SignalRecords.after _ (told ++ _) signal.id = _
    rw [SignalRecords.after_append, recorded, settledOutcome_single]
  · refine publishes.only_origin ?_ (fun event member => ?_) undrawn
    · exact fun consumer signal outcome member => inherited consumer signal outcome (by simp [member])
    · rw [handled_single only]
      exact List.mem_flatMap.mpr ⟨_, List.mem_cons_self, List.mem_map_of_mem member⟩

/-- A rejection and a technical error are told apart to the end, and neither passes for a success: of a
signal with one consumer, as every command has, the one is settled with an event and the other with
nothing but its error. -/
theorem refusal_settled {see : ω → κ} {refusal : Refusal} {view : b.store.View} (own : c.Apart view)
    (system : ∀ {post}, b.system = some post → ∀ event outside, view.record (post event outside).2 = view.record outside)
    (discreet : observer.Apart view) (keeps : b.Keeps see) (quiet : observer.Keeps see)
    (known : (b.registry signal.kind).class? signal.type = some message) (valid : ¬ b.Invalid signal message)
    (late : signal.context.deliverAt ≤ w.supply.clock w.supply.readings)
    (only : (b.registry signal.kind).consumers signal.type = [c])
    (refuses : c.Refuses see signal (b.receive observer signal w).2 refusal)
    (posted : b.post fuel observer signal w = (.ok outcome, after)) :
    ∃ told published error settled,
      b.recorded.post fuel observer.recorded signal (w.recorded []) = (.ok outcome, after.recorded
        (.save signal .received none (.ok ()) :: (told ++ .deliver c.id signal (.ok outcome) ::
          .save signal outcome.status (some error) (.ok ()) :: published))) ∧
      (∀ call ∈ told, call.subject? = none) ∧ outcome.isSuccess = false ∧
      view.record settled.outside =
        Function.update (view.record w.outside) signal.id (some ⟨signal, outcome.status, some error⟩) ∧
      see settled.outside = see w.outside ∧
      match refusal with
      | .failed record => outcome = .failure record ∧ error = record ∧ published = [] ∧ after = settled
      | .rejected rejection => ∃ event more,
          outcome = .rejection event ∧ event.kind = .event ∧ event.type = rejection.type ∧
          event.payload = rejection.data ∧ event.target = signal.target ∧
          event.context.origin = some signal.id ∧ event.context.producer = some Rejection.producer ∧
          event.context.version = none ∧
          error.type = rejection.type ∧ error.attributes.entries = [("rejection", rejection.data)] ∧
          published = .save event .received none (.ok ()) :: more ∧
          b.publish fuel [event] settled = (.ok (), after) ∧
          (b.Apart view →
            (∀ n, w.supply.idsDrawn ≤ n → n < after.supply.idsDrawn → w.supply.ids n ≠ signal.id) →
            view.record after.outside signal.id = some ⟨signal, .rejected, some error⟩ ∧
            (∀ stored status error answer, .save stored status error answer ∈ published →
              stored.context.origin = some signal.id → stored = event) ∧
            ((∀ {type c}, c ∈ b.events.consumers type → c.Keeps see) → see after.outside = see w.outside)) := by
  have due : signal.context.isDelayed (Supply.now w.supply).1 = false := decide_eq_false (UInt64.not_lt.mpr late)
  obtain ⟨told, published, recorded, steps, acknowledged, publishes⟩ :=
    post_single known (defect?_eq_none valid) due only posted
  obtain ⟨received, heard, settles⟩ := post_settles known (defect?_eq_none valid) due only posted
  rw [heard] at refuses
  obtain ⟨given, delivered, answered, tells, unchanged⟩ := refuses.deliver
  obtain ⟨rfl, settled, saved, spread⟩ := settles answered
  -- the record is written twice, and nothing between the two touches it
  have written : view.record settled.outside = Function.update (view.record w.outside) signal.id
      (some ⟨signal, given.status, settledError given⟩) := by
    have kept := (own.deliver signal received).1
    rw [answered] at kept
    rw [save_record saved, kept, receive_record system discreet heard, Function.update_idem]
  have kept : see settled.outside = see w.outside := by
    have first := receive_keeps keeps quiet signal w
    have second := save_keeps keeps signal given.status (settledError given) delivered
    rw [heard] at first
    rw [saved] at second
    exact second.trans (unchanged.trans first)
  have single := handled_single only given
  cases tells with
  | failure record =>
      cases publishes
      have same : after = settled := by cases fuel <;> cases spread <;> rfl
      rw [single] at recorded
      exact ⟨told, [], record, settled, recorded, acknowledged.silent, rfl, written, kept, rfl, rfl, rfl, same⟩
  | @rejection event rejection rejects =>
      have settling := fun apart : b.Apart view => steps.single apart discreet only publishes
      rw [single] at recorded
      cases publishes with
      | next processed later =>
          refine ⟨told, _, _, settled, recorded, acknowledged.silent, rfl, written, kept, event, _, rfl,
            rejects.kind, rejects.type, rejects.payload, rejects.target, rejects.origin, rejects.producer,
            rejects.version, rejects.type, congrArg (fun data => [("rejection", data)]) rejects.payload, rfl, spread,
            fun apart unused => ?_⟩
          obtain ⟨own, origins⟩ := settling apart unused
          refine ⟨own, fun stored status error answer member origin =>
            List.mem_singleton.mp (origins stored status error answer member origin), fun others => ?_⟩
          have published := publish_keeps keeps (fun member => (apart.consumers member).plain) others fuel
            (List.forall_mem_singleton.mpr rejects.kind) settled
          rw [show b.publish fuel [event] settled = (.ok (), after) from spread] at published
          exact published.trans kept

open Sample Kiosk in
/-- Nothing is withdrawn from an account that holds nothing, and nobody audits it. -/
theorem refusal_settled_kiosk :
    let withdrawal := asked Withdraw.type.name [("amount", .nat 5)]
    let auditing := asked audit.name []
    let rejected := bus.post 9 .discarding withdrawal opened
    let failed := bus.post 9 .discarding auditing opened
    (∃ event error, rejected.1 = .ok (.rejection event) ∧ event.type = InsufficientFunds.type.name ∧
      event.context.origin = some withdrawal.id ∧
      Kiosk.view.record rejected.2.outside withdrawal.id = some ⟨withdrawal, .rejected, some error⟩ ∧
      error.type = InsufficientFunds.type.name ∧ seen rejected.2.outside = seen opened.outside) ∧
    failed.1 = .ok (.failure (.of "Error" "closed")) ∧
      Kiosk.view.record failed.2.outside auditing.id = some ⟨auditing, .error, some (.of "Error" "closed")⟩ ∧
      seen failed.2.outside = seen opened.outside := by
  intro withdrawal auditing rejected failed
  have discreet : Observer.Apart Kiosk.view .discarding := fun _ _ => ⟨rfl, .refl _⟩
  have keeps : bus.Keeps seen := ⟨fun _ _ _ _ => rfl, nofun⟩
  have quiet : Observer.Keeps seen .discarding := fun _ _ => rfl
  constructor
  · have own : Consumer.Apart Kiosk.view (.dispatcher (repository.dispatcher accounts)) :=
      .repository repository accounts fun _ _ => rfl
    have known : Account.model.handler? withdrawal.type = some (.reading Withdraw.type Account.withdraw) := rfl
    have refuses : Consumer.Refuses seen withdrawal (bus.receive .discarding withdrawal opened).2
        (.dispatcher (repository.dispatcher accounts)) (.rejected _) :=
      .repository MemoryRecords.view MemoryRecords.reliable (fun _ _ => nofun) rfl (.inl rfl)
        (.given known rfl (.rejected _)) fun _ _ _ same => Prod.ext same.1 same.2
    have done : rejected.1.isOk = true := by decide +kernel
    have drawn : rejected.2.supply.idsDrawn = 1 := by decide +kernel
    have valid : ¬ bus.Invalid withdrawal Withdraw.type.toClass := by
      rw [← defect?_iff]
      decide +kernel
    rcases posted : rejected with ⟨halt | outcome, after⟩
    · rw [posted] at done
      cases done
    · rw [posted] at drawn
      have unused : ∀ n, opened.supply.idsDrawn ≤ n → n < after.supply.idsDrawn →
          opened.supply.ids n ≠ withdrawal.id := by
        intro n _ below
        obtain rfl : n = 0 := by
          change after.supply.idsDrawn = 1 at drawn
          omega
        decide +kernel
      obtain ⟨told, published, error, settled, -, -, -, -, -, event, more, rfl, -, type, -, -, origin, -, -,
        recordedType, -, -, -, later⟩ := refusal_settled own bus_apart.system discreet keeps quiet rfl valid
          (by decide +kernel) rfl refuses posted
      obtain ⟨record, -, unchanged⟩ := later bus_apart unused
      exact ⟨event, error, rfl, type, origin, record, recordedType, unchanged nofun⟩
  · have own : Consumer.Apart Kiosk.view (.handlers usher) :=
      .of_still (List.forall_mem_singleton.mpr (HandlerMethod.still_on _ _))
    have found : usher.method? auditing.type = some (.on audit fun _ => return .error (.failed "Error" "closed")) := rfl
    have refuses : Consumer.Refuses seen auditing (bus.receive .discarding auditing opened).2
        (.handlers usher) (.failed (.of "Error" "closed")) := .handlers found (.given (.failed ..)) rfl
    have done : failed.1.isOk = true := by decide +kernel
    have valid : ¬ bus.Invalid auditing audit.toClass := by
      rw [← defect?_iff]
      decide +kernel
    rcases posted : failed with ⟨halt | outcome, after⟩
    · rw [posted] at done
      cases done
    · obtain ⟨told, published, error, settled, -, -, -, written, unchanged, rfl, rfl, -, rfl⟩ :=
        refusal_settled own bus_apart.system discreet keeps quiet rfl valid (by decide +kernel) rfl refuses posted
      refine ⟨rfl, ?_, unchanged⟩
      rw [written]
      exact Function.update_self ..

end Bus

end Switchboard
