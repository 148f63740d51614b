import Switchboard.Proofs.Bus.Claiming
import Switchboard.Proofs.Bus.Inheritance
import Switchboard.Proofs.Bus.Serving
import Switchboard.Proofs.Bus.Settlement
import Switchboard.Proofs.Sample.Office
import Switchboard.Proofs.Table

namespace Switchboard

/-! A bus that asks for tenants hands nothing without a tenant to a consumer. -/

variable {ω : Type}

/-- Whatever is scheduled has a tenant. -/
def SignalRecords.Tenanted (records : SignalRecords) : Prop :=
  ∀ id r, records id = some r → r.status = .scheduled → r.signal.tenant.isSome

/-- Tenants are kept, whatever else happens to the records. -/
abbrev SignalRecords.KeepsTenants (before after : SignalRecords) : Prop := before.Tenanted → after.Tenanted

/-- The store lists no signal that it does not have as scheduled. -/
def SignalStore.View.Lists {store : SignalStore ω} (view : store.View) : Prop :=
  ∀ outside signals, (store.scheduled outside).1 = .ok signals → ∀ signal ∈ signals,
    ∃ id r, view.record outside id = some r ∧ r.signal = signal ∧ r.status = .scheduled

theorem SignalLedger.view_lists (place : Place ω SignalLedger) : (SignalLedger.view place).Lists := by
  intro outside signals listed signal member
  cases listed
  obtain ⟨r, among, rfl⟩ := List.mem_map.mp (List.mem_mergeSort.mp member)
  obtain ⟨value, status⟩ := List.mem_filter.mp among
  obtain ⟨id, found⟩ := Table.mem_values.mp value
  exact ⟨id, r, found, rfl, of_decide_eq_true status⟩

theorem SignalStore.View.Lists.failing {store : SignalStore ω} {view : store.View} {place : Place ω Faults}
    (lists : view.Lists)
    (apart : ∀ faults outside, view.record (place.set faults outside) = view.record outside) :
    (view.failing apart).Lists := by
  intro outside signals listed signal member
  rcases fault : (place.get outside).next with ⟨_ | error, faults⟩
  · simp only [SignalStore.failing, missing, fault] at listed
    obtain ⟨id, r, found, same, status⟩ := lists _ signals listed signal member
    rw [apart] at found
    exact ⟨id, r, found, same, status⟩
  · simp only [SignalStore.failing, missing, fault] at listed
    cases listed

def SchedulesTenants (calls : List Call) : Prop :=
  ∀ signal error, .save signal .scheduled error (.ok ()) ∈ calls → signal.tenant.isSome

theorem schedulesTenants_append {first last : List Call} :
    SchedulesTenants (first ++ last) ↔ SchedulesTenants first ∧ SchedulesTenants last := by
  simp only [SchedulesTenants, List.mem_append]
  grind

theorem schedulesTenants_of_none {calls : List Call} (unscheduled : scheduledIds calls = []) :
    SchedulesTenants calls := by
  intro signal error member
  have among : signal.id ∈ scheduledIds calls := List.mem_filterMap.mpr ⟨_, member, rfl⟩
  rw [unscheduled] at among
  cases among

theorem SignalRecords.Tenanted.write {records : SignalRecords} (tenanted : records.Tenanted) {call : Call}
    (new : SchedulesTenants [call]) : (call.write records).Tenanted := by
  intro id r found scheduled
  cases call with
  | save signal status error answer =>
      cases answer with
      | error cause => exact tenanted id r found scheduled
      | ok done =>
          by_cases same : id = signal.id
          · subst same
            simp only [Call.write, Function.update_self, Option.some.injEq] at found
            subst found
            subst scheduled
            exact new signal error List.mem_cons_self
          · simp only [Call.write, Function.update_of_ne same] at found
            exact tenanted id r found scheduled
  | claim claimed answer =>
      rcases answer with cause | _ | _
      · exact tenanted id r found scheduled
      · exact tenanted id r found scheduled
      · by_cases same : id = claimed
        · subst same
          simp only [Call.write, Function.update_self, Option.map_eq_some_iff] at found
          obtain ⟨before, -, rfl⟩ := found
          cases scheduled
        · simp only [Call.write, Function.update_of_ne same] at found
          exact tenanted id r found scheduled
  | _ => exact tenanted id r found scheduled

namespace Bus

variable {b : Bus ω} {observer : Observer ω} {view : b.store.View} {w later : World ω} {calls : List Call}
  {signal : Signal}

/-- What is scheduled has a tenant all along, and so has what is listed. -/
theorem Steps.tenanted (steps : b.Steps observer w calls later) (lists : view.Lists)
    (keeps : b.Respects view SignalRecords.KeepsTenants) (quiet : observer.Respects view SignalRecords.KeepsTenants)
    (scheduling : SchedulesTenants calls) (tenanted : (view.record w.outside).Tenanted) :
    (view.record later.outside).Tenanted ∧
      ∀ signals, .scheduled (.ok signals) ∈ calls → ∀ signal ∈ signals, signal.tenant.isSome := by
  induction steps with
  | refl w => exact ⟨tenanted, by simp⟩
  | trans first last ihFirst ihLast =>
      obtain ⟨early, late⟩ := schedulesTenants_append.mp scheduling
      obtain ⟨middle, listed⟩ := ihFirst early tenanted
      obtain ⟨done, others⟩ := ihLast late middle
      refine ⟨done, fun signals member => ?_⟩
      rcases List.mem_append.mp member with member | member
      · exact listed signals member
      · exact others signals member
  | draw w draws => exact ⟨tenanted, by simp⟩
  | save w signal status error =>
      rw [view.save]
      exact ⟨tenanted.write scheduling, by simp⟩
  | scheduled w =>
      rw [view.listed]
      refine ⟨tenanted, fun signals member signal among => ?_⟩
      have answer := (Call.scheduled.inj (List.mem_singleton.mp member)).symm
      obtain ⟨id, r, found, rfl, status⟩ := lists _ _ answer signal among
      exact tenanted id r found status
  | claim w id =>
      rw [view.claim]
      exact ⟨tenanted.write scheduling, by simp⟩
  | deliver w member signal => exact ⟨keeps.consumers member signal w tenanted, by simp⟩
  | acknowledge w ack => exact ⟨quiet ack w tenanted, by simp⟩
  | announce w system event => exact ⟨keeps.system system event _ tenanted, by simp⟩

def DeliversTenants (calls : List Call) : Prop := ∀ delivery ∈ deliveries calls, delivery.2.tenant.isSome

theorem deliversTenants_append {first last : List Call} (before : DeliversTenants first)
    (after : DeliversTenants last) : DeliversTenants (first ++ last) := by
  rw [DeliversTenants, deliveries_append]
  exact List.forall_mem_append.mpr ⟨before, after⟩

theorem deliversTenants_of_none (undelivered : deliveries calls = []) : DeliversTenants calls := by
  rw [DeliversTenants, undelivered]
  exact List.forall_mem_nil _

theorem CarriesOut.deliversTenants {result : Except Halt Outcome} (carried : b.CarriesOut signal calls result)
    (told : Inherited calls) (own : signal.tenant.isSome) : DeliversTenants calls := by
  -- the tenant goes down the cascade with each event that is produced
  have passed {event parent : Signal} (known : parent.tenant.isSome) (inherits : event.Inherits parent) :
      event.tenant.isSome := by
    rwa [Signal.tenant, inherits.tenant]
  have knowing : Knowing (fun _ event => event.tenant.isSome) [] calls :=
    carried.knowing ⟨id, fun known produced => passed known produced.inherits⟩ told own
      fun _ _ inherits => passed own inherits
  intro delivery delivered
  obtain ⟨call, member, handed⟩ := List.mem_filterMap.mp delivered
  obtain ⟨before, after, rfl⟩ := List.append_of_mem member
  exact knowing.at (Call.subject?_of_delivery handed)

theorem tenant_of_sound {message : MessageClass} (asks : b.multitenant = true)
    (sound : b.defect? signal message = none) : signal.tenant.isSome := by
  cases tenant : signal.tenant with
  | some tenant => rfl
  | none =>
      have refused := (b.defect?_iff signal message).mpr (.inl ⟨asks, tenant⟩)
      rw [sound] at refused
      cases refused

theorem Accepts.tenants {signals : List Signal} {now : UInt64} {result : Except Halt Outcome}
    (accepted : b.Accepts signals now signal calls result) (asks : b.multitenant = true) (told : Inherited calls) :
    DeliversTenants calls ∧ SchedulesTenants calls := by
  have silent {told : List Call} {ack : Ack} {result : Except Halt Unit}
      (acknowledged : b.Acknowledges signals ack told result) : DeliversTenants told ∧ SchedulesTenants told :=
    ⟨deliversTenants_of_none acknowledged.deliveries_eq, schedulesTenants_of_none acknowledged.neutral.scheduledIds⟩
  have saved {rest : List Call} {status : SignalStatus} {error : Option ErrorRecord} {answer : Except StorageError Unit}
      (scheduling : status = .scheduled → answer = .ok () → signal.tenant.isSome)
      (later : DeliversTenants rest ∧ SchedulesTenants rest) :
      DeliversTenants (.save signal status error answer :: rest) ∧
        SchedulesTenants (.save signal status error answer :: rest) := by
    refine ⟨later.1, fun other error member => ?_⟩
    rcases List.mem_cons.mp member with same | member
    · cases same
      exact scheduling rfl rfl
    · exact later.2 other error member
  cases accepted with
  | unsupported unknown acknowledged => exact silent acknowledged
  | unsaved known admitted cause =>
      exact saved (fun _ done => by cases done) ⟨deliversTenants_of_none rfl, schedulesTenants_of_none rfl⟩
  | refused known found acknowledged => exact saved (fun same => by cases same) (silent acknowledged)
  | scheduled known sound delayed acknowledged =>
      exact saved (fun _ _ => tenant_of_sound asks sound) (silent acknowledged)
  | untold known sound due acknowledged => exact saved (fun same => by cases same) (silent acknowledged)
  | carried known sound due acknowledged carried =>
      have own := tenant_of_sound asks sound
      have among : Inherited _ := fun consumer signal outcome member =>
        told consumer signal outcome (List.mem_cons_of_mem _ (List.mem_append_right _ member))
      refine saved (fun same => by cases same) ⟨deliversTenants_append (silent acknowledged).1 (carried.deliversTenants among own),
        schedulesTenants_append.mpr ⟨(silent acknowledged).2, ?_⟩⟩
      exact schedulesTenants_of_none carried.neutral.scheduledIds

theorem Each.tenants {signals posted : List Signal} {result : Except Halt (List Outcome)}
    (each : Each (fun signal calls result => ∃ now, b.Accepts posted now signal calls result) signals calls result)
    (asks : b.multitenant = true) (told : Inherited calls) : DeliversTenants calls ∧ SchedulesTenants calls := by
  induction each with
  | nil => exact ⟨deliversTenants_of_none rfl, schedulesTenants_of_none rfl⟩
  | broken here =>
      obtain ⟨now, accepted⟩ := here
      exact accepted.tenants asks told
  | next here later ih =>
      obtain ⟨now, accepted⟩ := here
      have first := accepted.tenants asks fun consumer signal outcome member =>
        told consumer signal outcome (List.mem_append_left _ member)
      have last := ih fun consumer signal outcome member =>
        told consumer signal outcome (List.mem_append_right _ member)
      exact ⟨deliversTenants_append first.1 last.1, schedulesTenants_append.mpr ⟨first.2, last.2⟩⟩

theorem Sweeps.deliversTenants {now : UInt64} {signals : List Signal} {report : SweepReport}
    {result : Except Halt SweepReport} (swept : b.Sweeps now signals report calls result) (told : Inherited calls)
    (listed : ∀ signal ∈ signals, signal.tenant.isSome) : DeliversTenants calls := by
  induction swept with
  | done => exact deliversTenants_of_none rfl
  | unclaimed error => exact deliversTenants_of_none rfl
  | pending delayed later ih => exact ih told (List.forall_mem_cons.mp listed).2
  | taken later ih =>
      exact ih (fun consumer signal outcome member => told consumer signal outcome (.tail _ member))
        (List.forall_mem_cons.mp listed).2
  | broken due carried =>
      exact carried.deliversTenants (fun consumer signal outcome member => told consumer signal outcome (.tail _ member))
        (List.forall_mem_cons.mp listed).1
  | delivered due carried later ih =>
      obtain ⟨own, others⟩ := List.forall_mem_cons.mp listed
      have first := carried.deliversTenants (fun consumer signal outcome member =>
        told consumer signal outcome (.tail _ (List.mem_append_left _ member))) own
      have last := ih (fun consumer signal outcome member =>
        told consumer signal outcome (.tail _ (List.mem_append_right _ member))) others
      exact deliversTenants_append first last

theorem SweepsDue.deliversTenants {now : UInt64} {result : Except Halt SweepReport}
    (due : b.SweepsDue now calls result) (told : Inherited calls)
    (listed : ∀ signals, .scheduled (.ok signals) ∈ calls → ∀ signal ∈ signals, signal.tenant.isSome) :
    DeliversTenants calls := by
  cases due with
  | unlisted error => exact deliversTenants_of_none rfl
  | listed swept =>
      exact swept.deliversTenants (fun consumer signal outcome member => told consumer signal outcome (.tail _ member))
        (listed _ List.mem_cons_self)

section Serving

variable {request : BusRequest ω} {requests : List (BusRequest ω)}

theorem serve_tenants (plain : ∀ {kind type c}, c ∈ (b.registry kind).consumers type → c.Plain)
    (asks : b.multitenant = true) (lists : view.Lists) (keeps : b.Respects view SignalRecords.KeepsTenants)
    (quiet : request.Respects view SignalRecords.KeepsTenants) (tenanted : (view.record w.outside).Tenanted) :
    ∃ calls, (∀ earlier, b.recorded.serve (w.recorded earlier) request.recorded =
        (b.serve w request).recorded (earlier ++ calls)) ∧
      DeliversTenants calls ∧ (view.record (b.serve w request).outside).Tenanted := by
  cases request with
  | post fuel observer signal =>
      obtain ⟨calls, accepts, steps, same⟩ := post_traced (b := b) fuel observer signal w
      obtain ⟨delivers, schedules⟩ := accepts.tenants asks (steps.inherited plain)
      exact ⟨calls, fun earlier => congrArg Prod.snd (same earlier), delivers,
        (steps.tenanted lists keeps quiet schedules tenanted).1⟩
  | postAll fuel observer signals =>
      obtain ⟨calls, each, steps, same⟩ := postAll_traced (b := b) fuel observer signals w
      obtain ⟨delivers, schedules⟩ := each.tenants asks (steps.inherited plain)
      exact ⟨calls, fun earlier => congrArg Prod.snd (same earlier), delivers,
        (steps.tenanted lists keeps quiet schedules tenanted).1⟩
  | sweep fuel =>
      obtain ⟨calls, due, steps, same⟩ := sweep_traced (b := b) fuel .discarding w
      -- a sweep schedules nothing, so the list that it goes through was there before
      obtain ⟨after, listed⟩ := steps.tenanted lists keeps (fun _ _ known => known)
        (schedulesTenants_of_none due.scheduledIds) tenanted
      exact ⟨calls, fun earlier => congrArg Prod.snd (same earlier),
        due.deliversTenants (steps.inherited plain) listed, after⟩

theorem serveAll_tenants (plain : ∀ {kind type c}, c ∈ (b.registry kind).consumers type → c.Plain)
    (asks : b.multitenant = true) (lists : view.Lists) (keeps : b.Respects view SignalRecords.KeepsTenants)
    (quiet : ∀ request ∈ requests, request.Respects view SignalRecords.KeepsTenants)
    (tenanted : (view.record w.outside).Tenanted) :
    ∃ calls, (∀ earlier, b.recorded.serveAll (requests.map .recorded) (w.recorded earlier) =
        (b.serveAll requests w).recorded (earlier ++ calls)) ∧ DeliversTenants calls := by
  induction requests generalizing w with
  | nil =>
      refine ⟨[], fun earlier => ?_, deliversTenants_of_none rfl⟩
      rw [List.append_nil]
      rfl
  | cons request rest ih =>
      obtain ⟨here, others⟩ := List.forall_mem_cons.mp quiet
      obtain ⟨calls, same, delivers, after⟩ := serve_tenants plain asks lists keeps here tenanted
      obtain ⟨more, sameMore, deliversMore⟩ := ih others after
      refine ⟨calls ++ more, fun earlier => ?_, deliversTenants_append delivers deliversMore⟩
      have whole := sameMore (earlier ++ calls)
      rw [← same earlier, List.append_assoc] at whole
      exact whole

/-- Circumstances are kept along the whole cascade: whatever a post stores besides the posted signal is
an event that traces back to it, and a bus that asks for tenants hands out nothing without one. -/
theorem circumstances_kept (plain : ∀ {kind type c}, c ∈ (b.registry kind).consumers type → c.Plain) :
    (∀ fuel (observer : Observer ω) signal (w : World ω), ∃ calls,
      b.recorded.post fuel observer.recorded signal (w.recorded []) =
        ((b.post fuel observer signal w).1, (b.post fuel observer signal w).2.recorded calls) ∧
      ∀ before event status error answer after, calls = before ++ .save event status error answer :: after →
        Traces before event signal ∧ (event = signal ∨ event.kind = .event ∧ event.Akin signal ∧
          event.context.delay = none ∧
          ∃ parent, event.context.origin = some parent.id ∧ Produced before event parent)) ∧
    (b.multitenant = true → ∀ view : b.store.View, view.Lists → b.Respects view SignalRecords.KeepsTenants →
      ∀ requests : List (BusRequest ω),
        (∀ request ∈ requests, request.Respects view SignalRecords.KeepsTenants) →
      ∀ w : World ω, (view.record w.outside).Tenanted → ∃ calls,
        b.recorded.serveAll (requests.map .recorded) (w.recorded []) = (b.serveAll requests w).recorded calls ∧
        ∀ consumer signal answer, .deliver consumer signal answer ∈ calls → signal.tenant.isSome) := by
  refine ⟨fun fuel observer signal w => post_traces plain fuel observer signal w, ?_⟩
  intro asks view lists keeps requests quiet w tenanted
  obtain ⟨calls, same, delivers⟩ := serveAll_tenants plain asks lists keeps quiet tenanted
  refine ⟨calls, same [], fun consumer signal answer member => ?_⟩
  exact delivers (consumer, signal) (List.mem_filterMap.mpr ⟨_, member, rfl⟩)

open Sample Office in
/-- Of an account that is opened and a deposit that waits for its time, the events trace back to
them, and each of them is handed out with the tenant. -/
theorem circumstances_kept_office :
    let opening := tenants (posted 1 0 (Branch.opening "a"))
    let requests := [
      .post 9 .discarding opening, .postAll 9 .discarding [tenants Office.later], .sweep 9, .sweep 9]
    let calls := (guarded.recorded.serveAll (requests.map .recorded) ((opened .none).recorded [])).outside.calls
    (∃ calls, guarded.recorded.post 9 Observer.discarding.recorded opening ((opened .none).recorded []) =
        ((guarded.post 9 .discarding opening (opened .none)).1,
          (guarded.post 9 .discarding opening (opened .none)).2.recorded calls) ∧
      ∀ before event status error answer after, calls = before ++ .save event status error answer :: after →
        Traces before event opening) ∧
    (deliveries calls).length = 3 ∧
      ∀ consumer signal answer, .deliver consumer signal answer ∈ calls → signal.tenant.isSome := by
  intro opening requests calls
  have kept := circumstances_kept fun member => (guarded_apart.consumers member).plain
  obtain ⟨first, same, traces⟩ := kept.1 9 .discarding opening (opened .none)
  have lists : Office.view.Lists := (SignalLedger.view_lists ledger).failing fun _ _ => rfl
  have keeps : guarded.Respects Office.view SignalRecords.KeepsTenants :=
    guarded_apart.respects.mono fun same tenanted => same ▸ tenanted
  have quiet : ∀ request ∈ requests, request.Respects Office.view SignalRecords.KeepsTenants := by
    intro request member
    simp only [requests, List.mem_cons, List.not_mem_nil, or_false] at member
    rcases member with rfl | rfl | rfl | rfl
    · exact fun _ _ tenanted => tenanted
    · exact fun _ _ tenanted => tenanted
    all_goals trivial
  have tenanted : (Office.view.record (opened .none).outside).Tenanted := by
    intro id r found
    cases found
  obtain ⟨made, recorded, delivers⟩ := kept.2 rfl Office.view lists keeps requests quiet (opened .none) tenanted
  have whole : calls = made := congrArg (fun w : World (Recorded Desk) => w.outside.calls) recorded
  refine ⟨⟨first, same, fun before event status error answer after split => ?_⟩, ?_, whole ▸ delivers⟩
  · exact (traces before event status error answer after split).1
  · decide +kernel

end Serving

end Bus

end Switchboard
