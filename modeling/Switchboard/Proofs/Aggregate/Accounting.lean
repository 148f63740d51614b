import Switchboard.Proofs.Aggregate.FastForward
import Switchboard.Proofs.Sample.Bench

namespace Switchboard

/-! Accounts. What a live entity says about itself after some events can be told from the events and the
declarations of its model, without applying them one by one. -/

variable {σ : Type} {model : AggregateModel σ} {s middle after : Snapshot σ} {r next : Root σ}
  {event command : Signal} {events first last : List Signal} {u : Supply}

namespace AggregateModel

/-- Those of the events that change the state. -/
def changing (model : AggregateModel σ) (events : List Signal) : List Signal :=
  events.filter fun event => model.isStateChanging event.type

/-- What the applier of an event makes of a state. -/
def evolve (model : AggregateModel σ) (state : σ) (event : Signal) : Except DecodeError σ :=
  (model.applier? event.type).elim (.ok state) fun applier => applier.apply state event.payload

@[simp] theorem changing_nil : model.changing [] = [] := rfl

theorem changing_cons (event : Signal) (rest : List Signal) :
    model.changing (event :: rest) =
      if model.isStateChanging event.type then event :: model.changing rest else model.changing rest :=
  List.filter_cons

theorem changing_append (first last : List Signal) :
    model.changing (first ++ last) = model.changing first ++ model.changing last :=
  List.filter_append first last

theorem length_changing_le (events : List Signal) : (model.changing events).length ≤ events.length :=
  List.length_filter_le _ events

end AggregateModel

namespace Snapshot

/-- What can be told of a snapshot from the events that have led to it from another. The version is
counted as it is kept, so it may wrap around. -/
structure Accounts (model : AggregateModel σ) (events : List Signal) (s after : Snapshot σ) : Prop where
  version : after.version = s.version + .ofNat (model.changing events).length
  timestamp : after.timestamp = ((model.changing events).getLast?.map (·.context.timestamp)).getD s.timestamp
  archived : after.lifecycle.archived = (s.lifecycle.archived || events.any (·.type ∈ model.archiving))
  deleted : after.lifecycle.deleted = (s.lifecycle.deleted || events.any (·.type ∈ model.deleting))
  state : (model.changing events).foldlM model.evolve s.state = .ok after.state

theorem accounts_nil (model : AggregateModel σ) (s : Snapshot σ) : s.Accounts model [] s where
  version := (UInt64.add_zero _).symm
  timestamp := rfl
  archived := (Bool.or_false _).symm
  deleted := (Bool.or_false _).symm
  state := rfl

theorem apply_accounts (applied : s.apply model event = .ok after) : s.Accounts model [event] after := by
  rcases apply_cases applied with ⟨neutral, rfl⟩ | ⟨applier, state, changes, found, changed, rfl⟩
  · have none : model.changing [event] = [] := by
      simp [AggregateModel.changing, AggregateModel.isStateChanging, neutral]
    constructor <;> simp [none, mark]
    rfl
  · have one : model.changing [event] = [event] := by
      simp [AggregateModel.changing, AggregateModel.isStateChanging, changes, found]
    constructor <;> simp [one, mark, AggregateModel.evolve, found, changed]

theorem Accounts.append (begun : s.Accounts model first middle) (ended : middle.Accounts model last after) :
    s.Accounts model (first ++ last) after where
  version := by
    rw [ended.version, begun.version, AggregateModel.changing_append, List.length_append, UInt64.ofNat_add,
      UInt64.add_assoc]
  timestamp := by
    rw [ended.timestamp, begun.timestamp, AggregateModel.changing_append, List.getLast?_append]
    cases (model.changing last).getLast? <;> rfl
  archived := by rw [ended.archived, begun.archived, List.any_append, Bool.or_assoc]
  deleted := by rw [ended.deleted, begun.deleted, List.any_append, Bool.or_assoc]
  state := by
    rw [AggregateModel.changing_append, List.foldlM_append, begun.state]
    exact ended.state

theorem applyAll_accounts (applied : s.applyAll model events = .ok after) : s.Accounts model events after := by
  induction events generalizing s with
  | nil =>
      cases applied
      exact accounts_nil model _
  | cons event rest ih =>
      rw [applyAll_cons] at applied
      cases once : s.apply model event with
      | error error => simp [once, Except.bind] at applied
      | ok next =>
          rw [once] at applied
          exact (apply_accounts once).append (ih applied)

end Snapshot

/-- The version stamped on an event counts the changing events up to it. -/
theorem Stamped.getElem? {version : UInt64} {i : Nat} (stamped : Stamped model version events)
    (found : events[i]? = some event) :
    event.context.version = some (version + .ofNat (model.changing (events.take (i + 1))).length) := by
  induction events generalizing version i with
  | nil => cases found
  | cons head rest ih =>
      obtain ⟨here, stamped⟩ := stamped
      cases i with
      | zero =>
          cases found
          rw [here, List.take_succ_cons, List.take_zero, AggregateModel.changing_cons]
          cases changes : model.isStateChanging event.type <;> simp
      | succ i =>
          rw [ih stamped found, List.take_succ_cons, AggregateModel.changing_cons]
          cases changes : model.isStateChanging head.type with
          | false => simp
          | true => simp [UInt64.ofNat_add, UInt64.add_assoc, UInt64.add_comm 1]

theorem Stamped.getLast? {version : UInt64} (stamped : Stamped model version events)
    (found : events.getLast? = some event) :
    event.context.version = some (version + .ofNat (model.changing events).length) := by
  have all : events.length - 1 + 1 = events.length :=
    Nat.sub_add_cancel (List.length_pos_of_mem (List.mem_of_getLast? found))
  rw [List.getLast?_eq_getElem?] at found
  rw [stamped.getElem? found, all, List.take_length]

namespace Root

/-- What can be told of an entity from events that it has taken. -/
structure Accounts (model : AggregateModel σ) (events : List Signal) (r next : Root σ) : Prop where
  version : next.version.toNat = r.version.toNat + (model.changing events).length
  whenModified :
    next.whenModified = ((model.changing events).getLast?.map (·.context.timestamp)).or r.whenModified
  archived : next.lifecycle.archived = (r.lifecycle.archived || events.any (·.type ∈ model.archiving))
  deleted : next.lifecycle.deleted = (r.lifecycle.deleted || events.any (·.type ∈ model.deleting))
  state : (model.changing events).foldlM model.evolve r.state = .ok next.state

/-- What can be told of the events that a command is answered with. -/
structure Emits (model : AggregateModel σ) (command : Signal) (events : List Signal) (r next : Root σ) : Prop where
  /-- They are what the handler gives, in its order. -/
  decided : r.decide model command = .ok (events.map Signal.eventMessage)
  /-- Each carries the version reached with it. -/
  stamped : ∀ i event, events[i]? = some event → ∃ version, event.context.version = some version ∧
    version.toNat = r.version.toNat + (model.changing (events.take (i + 1))).length
  last : ∀ event ∈ events.getLast?, event.context.version = some next.version

theorem toNat_reached {version : UInt64} {part : List Signal} (room : version.toNat + events.length < UInt64.size)
    (within : part.length ≤ events.length) :
    (version + .ofNat (model.changing part).length).toNat = version.toNat + (model.changing part).length := by
  have few := model.length_changing_le part
  have small : version.toNat + (model.changing part).length < UInt64.size := by omega
  rw [UInt64.toNat_add, UInt64.toNat_ofNat', Nat.add_mod_mod]
  exact Nat.mod_eq_of_lt small

theorem whenModified_restore (accounts : r.snapshot.Accounts model events s)
    (version : s.version.toNat = r.version.toNat + (model.changing events).length) :
    (r.restore s).whenModified =
      ((model.changing events).getLast?.map (·.context.timestamp)).or r.whenModified := by
  change (if 0 < s.version then some s.timestamp else none) = _
  rw [accounts.timestamp]
  -- A version of zero stands for no modification, so a change has to show in the version.
  cases last : (model.changing events).getLast? with
  | none =>
      rw [List.getLast?_eq_none_iff.mp last] at version
      rw [UInt64.toNat_inj.mp version]
      rfl
  | some event =>
      have changed := List.length_pos_of_mem (List.mem_of_getLast? last)
      have modified : 0 < s.version := UInt64.lt_iff_toNat_lt.mpr (version ▸ Nat.add_pos_right _ changed)
      rw [if_pos modified]
      rfl

theorem accounts_restore (room : r.version.toNat + events.length < UInt64.size)
    (applied : r.snapshot.applyAll model events = .ok s) : r.Accounts model events (r.restore s) := by
  have accounts := Snapshot.applyAll_accounts applied
  have version : s.version.toNat = r.version.toNat + (model.changing events).length := by
    rw [accounts.version]
    exact toNat_reached room (Nat.le_refl _)
  exact ⟨version, whenModified_restore accounts version, accounts.archived, accounts.deleted, accounts.state⟩

theorem produce_messages {producer : String} {messages : List EventMessage}
    (produced : (produce model producer command s messages u).1 = .ok (events, after)) :
    events.map Signal.eventMessage = messages := by
  induction messages generalizing s events u with
  | nil =>
      cases produced
      rfl
  | cons message rest ih =>
      obtain ⟨next, tail, -, later, rfl⟩ := produce_cons_ok produced
      exact congrArg (List.cons message) (ih later)

theorem dispatch_messages (dispatched : (dispatch model command r u).1 = (.ok events, next)) :
    r.decide model command = .ok (events.map Signal.eventMessage) := by
  obtain ⟨messages, last, decided, produced, -⟩ := dispatch_ok dispatched
  rw [decided, produce_messages produced]

theorem dispatch_emits (room : r.version.toNat + events.length < UInt64.size)
    (dispatched : (dispatch model command r u).1 = (.ok events, next)) : r.Emits model command events next := by
  obtain ⟨last, applied, stamped, rfl⟩ := dispatch_applied dispatched
  refine ⟨dispatch_messages dispatched, fun i event found => ⟨_, stamped.getElem? found, ?_⟩, ?_⟩
  · exact toNat_reached room (List.length_take_le' _ _)
  · intro event found
    rw [stamped.getLast? found]
    exact congrArg some (Snapshot.applyAll_accounts applied).version.symm

/-- Whatever way an entity takes events, as its history or as those of a command, its version counts those that
change the state, it is archived or deleted if it has been or one of them says so, it has been modified with
the last change, and its state comes of the changes only, whatever the other events are declared for. -/
theorem accounting (model : AggregateModel σ) (r next : Root σ) (events : List Signal)
    (room : r.version.toNat + events.length < UInt64.size) :
    (play model events r = (.ok (), next) → r.Accounts model events next) ∧
      ∀ command u, (dispatch model command r u).1 = (.ok events, next) →
        r.Accounts model events next ∧ r.Emits model command events next := by
  refine ⟨fun played => ?_, fun command u dispatched => ⟨?_, dispatch_emits room dispatched⟩⟩
  · obtain ⟨s, applied, rfl⟩ := play_ok_iff.mp played
    exact accounts_restore room applied
  · obtain ⟨s, applied, -, rfl⟩ := dispatch_applied dispatched
    obtain ⟨version, whenModified, archived, deleted, state⟩ := accounts_restore room applied
    exact ⟨version, whenModified, archived, deleted, state⟩

open Sample Bench in
/-- Two of four events change a specimen, and the last of them archives it. Of the others, one deletes it and one
has an applier for nothing. It is all the same whether they come of an experiment or as a history. -/
theorem accounting_bench :
    let messages := [removing, adding, muting, sealing]
    let history := messages.map (Bench.event 7)
    specimen.version.toNat + history.length < UInt64.size ∧
      (∃ next, play Lab.model history specimen = (.ok (), next) ∧ specimen.Accounts Lab.model history next ∧
        next.version = 2 ∧ next.whenModified = some 7 ∧ next.lifecycle = ⟨true, true⟩) ∧
      ∃ events next, (dispatch Lab.model (experiment messages) specimen Branch.supply).1 = (.ok events, next) ∧
        specimen.Accounts Lab.model events next ∧ specimen.Emits Lab.model (experiment messages) events next ∧
        events.map (·.context.version) = [some 0, some 1, some 1, some 2] := by
  have few : specimen.version.toNat + [removing, adding, muting, sealing].length < UInt64.size := by decide
  refine ⟨few, ⟨_, rfl, (accounting Lab.model specimen _ _ few).1 rfl, rfl, rfl, rfl⟩, _, _, rfl, ?_⟩
  obtain ⟨accounts, emits⟩ := (accounting Lab.model specimen _ _ few).2
    (experiment [removing, adding, muting, sealing]) Branch.supply rfl
  exact ⟨accounts, emits, rfl⟩

end Root
end Switchboard
