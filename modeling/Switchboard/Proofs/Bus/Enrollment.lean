import Switchboard.Proofs.Bus.Handling
import Switchboard.Proofs.Consumer.Registration
import Switchboard.Proofs.Sample.Office

namespace Switchboard

/-! Who is invoked. Over any registrations and removals a bus keeps owners for each type, one at
most for a command, and it invokes an owner as often as that declares the type. -/

variable {ω : Type}

inductive Change (ω : Type) where
  | register (kind : SignalKind) (consumer : Consumer ω)
  | unregister (kind : SignalKind) (consumer : Consumer ω)
  | close

namespace Bus

def changed (b : Bus ω) : Change ω → Bus ω
  | .register kind consumer => (register kind consumer b).2
  | .unregister kind consumer => (b.unregister kind consumer).2
  | .close => b.close

def after (b : Bus ω) (changes : List (Change ω)) : Bus ω := changes.foldl changed b

/-- A command has at most one owner, and all owners are enrolled. -/
structure Enrolled (b : Bus ω) (enrolled : SignalKind → Consumer ω → Prop) : Prop where
  exclusive : (b.registry .command).ownership = .exclusive
  staffed : ∀ kind, (b.registry kind).Staffed (enrolled kind)

theorem registry_withRegistry (b : Bus ω) (kind other : SignalKind) (r : Registry ω) :
    (b.withRegistry kind r).registry other = if kind = other then r else b.registry other := by
  cases kind <;> cases other <;> rfl

section Registering

variable {b next : Bus ω} {kind : SignalKind} {c : Consumer ω}

theorem register_apply (b : Bus ω) (kind : SignalKind) (c : Consumer ω) :
    register kind c b = ((Registry.register c (b.registry kind)).1,
      b.withRegistry kind (Registry.register c (b.registry kind)).2) := rfl

theorem register_ok_iff : register kind c b = (.ok (), next) ↔
    ∃ r, Registry.register c (b.registry kind) = (.ok (), r) ∧ b.withRegistry kind r = next := by
  rw [register_apply]
  rcases Registry.register c (b.registry kind) with ⟨_ | _, r⟩
  · exact iff_of_false (fun same => nomatch same) fun ⟨_, same, _⟩ => nomatch same
  · constructor
    · intro same
      exact ⟨r, rfl, congrArg Prod.snd same⟩
    · rintro ⟨_, same, rfl⟩
      cases same
      rfl

/-- A registration that fails changes nothing. -/
theorem register_failed {error : RegistrationError} (failed : register kind c b = (.error error, next)) :
    next = b := by
  rw [register_apply] at failed
  rcases done : Registry.register c (b.registry kind) with ⟨_ | _, r⟩
  · rw [done, Registry.register_failed done] at failed
    cases failed
    cases kind <;> rfl
  · rw [done] at failed
    cases failed

end Registering

namespace Enrolled

variable {b next : Bus ω} {enrolled more : SignalKind → Consumer ω → Prop} {kind : SignalKind}
  {c : Consumer ω}

theorem withRegistry {r : Registry ω} (holds : b.Enrolled enrolled)
    (kept : r.ownership = (b.registry kind).ownership) (staffed : r.Staffed (enrolled kind)) :
    (b.withRegistry kind r).Enrolled enrolled := by
  constructor
  · rw [registry_withRegistry]
    split
    · next same =>
        subst same
        exact kept.trans holds.exclusive
    · exact holds.exclusive
  · intro other
    rw [registry_withRegistry]
    split
    · next same =>
        subst same
        exact staffed
    · exact holds.staffed other

theorem register (holds : b.Enrolled enrolled) (admitted : enrolled kind c)
    (registered : Bus.register kind c b = (.ok (), next)) : next.Enrolled enrolled := by
  obtain ⟨r, done, rfl⟩ := register_ok_iff.mp registered
  exact holds.withRegistry (Registry.register_apply done).2.1 ((holds.staffed kind).register admitted done)

theorem changed (holds : b.Enrolled enrolled) (change : Change ω)
    (admitted : ∀ kind c, change = .register kind c → enrolled kind c) :
    (b.changed change).Enrolled enrolled := by
  cases change with
  | register kind c =>
      rcases done : Bus.register kind c b with ⟨_ | _, next⟩
      · have same : b.changed (.register kind c) = b := (congrArg Prod.snd done).trans (register_failed done)
        rwa [same]
      · have same : b.changed (.register kind c) = next := congrArg Prod.snd done
        rw [same]
        exact holds.register (admitted kind c rfl) done
  | unregister kind c =>
      exact holds.withRegistry (Registry.unregister_apply _ c "").1 ((holds.staffed kind).unregister c)
  | close =>
      refine ⟨holds.exclusive, ?_⟩
      intro kind type
      cases kind <;> exact ⟨[], .clear _ type, by simp⟩

theorem after {changes : List (Change ω)} (holds : b.Enrolled enrolled)
    (admitted : ∀ kind c, .register kind c ∈ changes → enrolled kind c) :
    (b.after changes).Enrolled enrolled := by
  induction changes generalizing b with
  | nil => exact holds
  | cons change rest ih =>
      refine ih (holds.changed change ?_) ?_
      · rintro kind c rfl
        exact admitted kind c (by simp)
      · intro kind c among
        exact admitted kind c (by simp [among])

theorem all {consumers : List (SignalKind × Consumer ω)} (holds : b.Enrolled enrolled)
    (admitted : ∀ kind c, (kind, c) ∈ consumers → enrolled kind c)
    (registered : (consumers.forM fun entry => Bus.register entry.1 entry.2) b = (.ok (), next)) :
    next.Enrolled enrolled := by
  induction consumers generalizing b with
  | nil =>
      cases registered
      exact holds
  | cons entry rest ih =>
      obtain ⟨kind, c⟩ := entry
      obtain ⟨after, first, others⟩ := Computation.forM_cons_ok_iff.mp registered
      refine ih (holds.register (admitted kind c (by simp)) first) ?_ others
      intro kind c among
      exact admitted kind c (by simp [among])

end Enrolled

theorem vacant_enrolled (p : BusPlan ω) (enrolled : SignalKind → Consumer ω → Prop) :
    p.vacant.Enrolled enrolled := by
  refine ⟨rfl, ?_⟩
  intro kind type
  cases kind <;> exact ⟨[], .empty _ type, by simp⟩

theorem registered_of_built {p : BusPlan ω} {b : Bus ω} (built : p.build = .ok b) :
    (p.consumers.forM fun entry => Bus.register entry.1 entry.2) p.vacant = (.ok (), b) := by
  rcases ran : (p.consumers.forM fun entry => Bus.register entry.1 entry.2) p.vacant with ⟨_ | _, reached⟩
  · simp only [BusPlan.build, ExceptT.run, StateT.run, ran] at built
    cases built
  · simp only [BusPlan.build, ExceptT.run, StateT.run, ran] at built
    cases built
    rfl

/-- Over any changes to a built bus, the owners of a type have distinct ids, and a command has at
most one; each is invoked as often as it declares the type. So each is invoked once just if none
declares the type twice, which a set of handlers never does. -/
theorem invoked_as_declared {p : BusPlan ω} {b : Bus ω} (built : p.build = .ok b)
    (changes : List (Change ω)) (signal : Signal) :
    ∃ owners : List (Consumer ω),
      (owners.map Consumer.id).Nodup ∧ (signal.kind = .command → owners.length ≤ 1) ∧
      (∀ c ∈ owners, 0 < c.declarations signal.type ∧
        ((signal.kind, c) ∈ p.consumers ∨ .register signal.kind c ∈ changes)) ∧
      (∀ set, .handlers set ∈ owners → (Consumer.handlers set).declarations signal.type = 1) ∧
      ((b.after changes).registry signal.kind).consumers signal.type =
        owners.flatMap (fun c => List.replicate (c.declarations signal.type) c) ∧
      ((∀ c ∈ owners, c.declarations signal.type = 1) ↔
        ((((b.after changes).registry signal.kind).consumers signal.type).map Consumer.id).Nodup) ∧
      (∀ w, ∃ calls,
        (∀ earlier, (b.after changes).recorded.deliver signal (w.recorded earlier) =
          (((b.after changes).deliver signal w).1,
            ((b.after changes).deliver signal w).2.recorded (earlier ++ calls))) ∧
        deliveries calls <+:
          owners.flatMap (fun c => List.replicate (c.declarations signal.type) (c.id, signal)) ∧
        (owners ≠ [] → deliveries calls ≠ []) ∧
        ∀ outcomes, ((b.after changes).deliver signal w).1 = .ok outcomes → deliveries calls =
          owners.flatMap fun c => List.replicate (c.declarations signal.type) (c.id, signal)) ∧
      ∀ fuel observer w message outcome last,
        ((b.after changes).registry signal.kind).class? signal.type = some message →
        (b.after changes).defect? signal message = none →
        signal.context.isDelayed (Supply.now w.supply).1 = false →
        (b.after changes).post fuel observer signal w = (.ok outcome, last) →
        ∃ told handling published, ∃ outcomes : List Outcome,
          (b.after changes).recorded.post fuel observer.recorded signal (w.recorded []) =
            (.ok outcome, last.recorded
              (.save signal .received none (.ok ()) :: (told ++ (handling ++ published)))) ∧
          deliveries told = [] ∧
          deliveries handling =
            owners.flatMap (fun c => List.replicate (c.declarations signal.type) (c.id, signal)) ∧
          handling.getLast? = some (.save signal outcome.status (settledError outcome) (.ok ())) ∧
          (b.after changes).Publishes (outcomes.flatMap Outcome.followUps) published (.ok ()) := by
  have holds := ((vacant_enrolled p fun kind c => (kind, c) ∈ p.consumers ∨ .register kind c ∈ changes).all
    (fun kind c => .inl) (registered_of_built built)).after fun kind c => .inr
  obtain ⟨owners, owned, all⟩ := holds.staffed signal.kind signal.type
  have entries : (b.after changes).recipients signal =
      owners.flatMap fun c => List.replicate (c.declarations signal.type) (c.id, signal) := by
    rw [recipients, owned.consumers, List.map_flatMap]
    simp only [Consumer.entries, List.map_replicate]
  have once : (∀ c ∈ owners, c.declarations signal.type = 1) ↔
      ∀ c ∈ owners, c.declarations signal.type ≤ 1 := by
    constructor
    · intro one c member
      exact Nat.le_of_eq (one c member)
    · intro most c member
      have declared := owned.declared c member
      have bound := most c member
      omega
  refine ⟨owners, owned.distinct, ?_, fun c member => ⟨owned.declared c member, all c member⟩, ?_,
    owned.consumers, once.trans owned.once_iff, ?_, ?_⟩
  · intro command
    apply owned.single
    rw [command]
    exact holds.exclusive
  · intro set member
    have declared := owned.declared _ member
    have most := Consumer.handlers_declarations set signal.type
    omega
  · intro w
    obtain ⟨calls, each, -, same⟩ : (b.after changes).Traced .discarding w _ _ _ := deliver_traced signal w
    obtain ⟨some, begun, whole⟩ := each.delivered
    rw [← recipients, entries] at some whole
    refine ⟨calls, same, some, ?_, fun outcomes done => (whole outcomes done).2.2⟩
    intro owners_ne
    obtain ⟨c, rest, rfl⟩ := List.exists_cons_of_ne_nil owners_ne
    exact begun (List.ne_nil_of_mem (owned.mem_consumers List.mem_cons_self))
  · intro fuel observer w message outcome last known sound due posted
    obtain ⟨calls, accepted, -, same⟩ := post_traced (b := b.after changes) fuel observer signal w
    rw [posted] at accepted same
    obtain ⟨told, outcomes, published, rfl, rfl, acknowledged, lengths, publishes⟩ :=
      accepted.accepted.of_due known sound due
    refine ⟨told, _, published, outcomes, same [], acknowledged.deliveries_eq, ?_, ?_, publishes⟩
    · rw [deliveries_handled lengths, entries]
    · rw [Bus.handled, List.getLast?_concat]

open Sample Office in
/-- A second teller is turned away, and the first gets the deposit, once. -/
theorem invoked_as_declared_counter :
    let reached := counter.after [.register .command (.handlers { teller with id := "rival" })]
    let deposit := posted 1 0 (Branch.deposit "a")
    (reached.post 1 .discarding deposit (opened .none)).1.isOk = true ∧
      ∃ told handling published after,
        reached.recorded.post 1 (Observer.recorded .discarding) deposit ((opened .none).recorded []) =
          ((reached.post 1 .discarding deposit (opened .none)).1, after) ∧
        after.outside.calls = .save deposit .received none (.ok ()) :: (told ++ (handling ++ published)) ∧
        deliveries told = [] ∧ deliveries handling = [("teller", deposit)] := by
  intro reached deposit
  obtain ⟨owners, -, -, -, -, entries, -, -, posts⟩ := invoked_as_declared counter_built
    [.register .command (.handlers { teller with id := "rival" })] deposit
  have admitted : ((reached.registry .command).class? "bank.Deposit").map
      (fun message => (reached.defect? deposit message).isNone) = some true := by decide +kernel
  obtain ⟨message, known, sound⟩ := Option.map_eq_some_iff.mp admitted
  have accepted : (reached.post 1 .discarding deposit (opened .none)).1.isOk = true := by decide +kernel
  have recipients : reached.recipients deposit = [("teller", deposit)] := by decide +kernel
  rcases done : reached.post 1 .discarding deposit (opened .none) with ⟨halt | outcome, last⟩
  · rw [done] at accepted
    cases accepted
  · obtain ⟨told, handling, published, -, same, untold, delivered, -⟩ := posts 1 .discarding (opened .none)
      message outcome last known (Option.isNone_iff_eq_none.mp sound) (by decide +kernel) done
    refine ⟨rfl, told, handling, published, _, same, rfl, untold, ?_⟩
    have whole := congrArg (List.map fun c => (c.id, deposit)) entries
    rw [List.map_flatMap] at whole
    simp only [List.map_replicate] at whole
    exact delivered.trans (whole.symm.trans recipients)

open Sample Office in
/-- A dispatcher that declares a type of commands twice is invoked twice for one command. -/
theorem declared_twice_invoked_twice :
    let reached := counter.after
      [.unregister .command (.handlers teller), .register .command (.dispatcher twin)]
    let deposit := posted 1 0 (Branch.deposit "a")
    ((reached.registry .command).consumers "bank.Deposit").map Consumer.id = ["twin", "twin"] ∧
      (reached.post 1 .discarding deposit (opened .none)).1.toOption = some (.success []) ∧
      deliveries (reached.recorded.post 1 (Observer.recorded .discarding) deposit
        ((opened .none).recorded [])).2.outside.calls = [("twin", deposit), ("twin", deposit)] := by
  decide +kernel

end Bus

end Switchboard
