import Switchboard.Proofs.Aggregate.Answer
import Switchboard.Proofs.Entity.StorageView
import Switchboard.Repository.Basic

namespace Switchboard

/-! What a repository has of its entities, as far as its answers can tell. -/

@[ext] structure Inventory (σ : Type) where
  /-- The entities that caching is on for, each with the snapshot that is held, if any. -/
  slots : EntityKey → Option (Option (Snapshot σ))
  records : EntityKey → Option (Snapshot σ)

variable {β σ : Type}

namespace Inventory

/-- The snapshot held of an entity, else the one recorded. An entity without either is new. -/
def latest (model : AggregateModel σ) (i : Inventory σ) (key : EntityKey) : Snapshot σ :=
  (i.slots key).join.getD ((i.records key).getD (Root.fresh model key).snapshot)

def isCaching (i : Inventory σ) (key : EntityKey) : Bool := (i.slots key).isSome

/-- Holds a snapshot, if caching is on for its entity. -/
def hold (i : Inventory σ) (key : EntityKey) (s : Snapshot σ) : Inventory σ :=
  { i with slots := fun other => if other = key then (i.slots key).map fun _ => some s else i.slots other }

def record (i : Inventory σ) (key : EntityKey) (s : Snapshot σ) : Inventory σ :=
  { i with records := fun other => if other = key then some s else i.records other }

/-- Holds a snapshot if caching is on for its entity, or else records it. -/
def keep (i : Inventory σ) (key : EntityKey) (s : Snapshot σ) : Inventory σ :=
  if i.isCaching key then i.hold key s else i.record key s

/-- Starts to hold an entity. What is held of it already stays so. -/
def start (i : Inventory σ) (key : EntityKey) : Inventory σ :=
  { i with slots := fun other => if other = key then some (i.slots key).join else i.slots other }

/-- Records a snapshot of an entity and holds it no more. -/
def settle (i : Inventory σ) (key : EntityKey) (s : Snapshot σ) : Inventory σ where
  slots other := if other = key then none else i.slots other
  records other := if other = key then some s else i.records other

variable {model : AggregateModel σ} {i : Inventory σ} {key other : EntityKey} {s first : Snapshot σ}

theorem latest_of_uncached (uncached : i.isCaching key = false) :
    i.latest model key = (i.records key).getD (Root.fresh model key).snapshot := by
  have off : i.slots key = none := by simpa [isCaching] using uncached
  simp [latest, off]

/-- Holding what is held already changes nothing, and neither does holding where caching is off. -/
theorem hold_eq_self (same : ∀ held, i.slots key = some held → held = some s) : i.hold key s = i := by
  refine Inventory.ext (funext fun other => ?_) rfl
  by_cases here : other = key
  · subst here
    cases on : i.slots other with
    | none => simp [hold, on]
    | some held => simp [hold, on, same held on]
  · simp [hold, here]

theorem hold_of_uncached (uncached : i.isCaching key = false) : i.hold key s = i :=
  hold_eq_self fun held on => by simp [isCaching, on] at uncached

@[simp] theorem isCaching_hold : (i.hold key s).isCaching other = i.isCaching other := by
  by_cases here : other = key <;> simp [isCaching, hold, here]

@[simp] theorem isCaching_keep : (i.keep key s).isCaching other = i.isCaching other := by
  unfold keep
  split
  · exact isCaching_hold
  · rfl

/-- Reading an entity makes no difference to what it is. -/
@[simp] theorem latest_hold_latest :
    (i.hold key (i.latest model key)).latest model other = i.latest model other := by
  by_cases here : other = key
  · subst here
    cases on : i.slots other with
    | none => simp [latest, hold, on]
    | some held => simp [latest, hold, on]
  · simp [latest, hold, here]

theorem latest_keep :
    (i.keep key s).latest model other = if other = key then s else i.latest model other := by
  by_cases on : i.isCaching key = true
  · obtain ⟨held, slot⟩ := Option.isSome_iff_exists.mp on
    by_cases here : other = key <;> simp [keep, on, latest, hold, here, slot]
  · have off : i.slots key = none := by simpa [isCaching] using on
    by_cases here : other = key <;> simp [keep, on, latest, record, here, off]

theorem keep_hold : (i.hold key first).keep key s = i.keep key s := by
  by_cases on : i.isCaching key = true
  · simp only [keep, isCaching_hold, on, if_true]
    refine Inventory.ext (funext fun other => ?_) rfl
    by_cases here : other = key <;> simp [hold, here, Function.comp_def]
  · rw [hold_of_uncached (by simpa using on)]

theorem hold_hold : (i.hold key first).hold key s = i.hold key s := by
  refine Inventory.ext (funext fun other => ?_) rfl
  by_cases here : other = key <;> simp [hold, here, Function.comp_def]

@[simp] theorem isCaching_start :
    (i.start key).isCaching other = (decide (other = key) || i.isCaching other) := by
  by_cases here : other = key <;> simp [isCaching, start, here]

@[simp] theorem isCaching_settle :
    (i.settle key s).isCaching other = (!decide (other = key) && i.isCaching other) := by
  by_cases here : other = key <;> simp [isCaching, settle, here]

@[simp] theorem latest_start : (i.start key).latest model other = i.latest model other := by
  by_cases here : other = key
  · subst here
    simp [latest, start]
  · simp [latest, start, here]

theorem latest_settle :
    (i.settle key s).latest model other = if other = key then s else i.latest model other := by
  by_cases here : other = key <;> simp [latest, settle, here]

/-- What was held before does not matter once an entity is settled. -/
theorem settle_hold_start : ((i.start key).hold key first).settle key s = i.settle key s := by
  refine Inventory.ext (funext fun other => ?_) rfl
  by_cases here : other = key <;> simp [settle, hold, start, here]

/-- How the reply to a command goes with what becomes of the inventory. -/
inductive Replied (model : AggregateModel σ) (key : EntityKey) (before : Inventory σ) :
    Except DispatchError Outcome → Inventory σ → Prop where
  /-- The entity could not be reached. -/
  | missed (error : DispatchError) : Replied model key before (.error error) before
  /-- It was read but did not change. -/
  | unchanged {reply : Except DispatchError Outcome} (silent : reported reply = none) :
      Replied model key before reply (before.hold key (before.latest model key))
  /-- It changed by the events of the reply. -/
  | changed {events : List Signal} {next : Snapshot σ}
      (applied : (before.latest model key).applyAll model events = .ok next)
      (stamped : Stamped model (before.latest model key).version events) :
      Replied model key before (.ok (.success events)) (before.keep key next)

variable {before middle after : Inventory σ} {reply : Except DispatchError Outcome} {error : DispatchError}

/-- A command that was answered with an error may be sent again. -/
theorem Replied.again (failed : Replied model key before (.error error) middle)
    (replied : Replied model key middle reply after) : Replied model key before reply after := by
  cases failed with
  | missed => exact replied
  | unchanged =>
      cases replied with
      | missed => exact .unchanged rfl
      | unchanged silent =>
          rw [latest_hold_latest, hold_hold]
          exact .unchanged silent
      | changed applied stamped =>
          rw [latest_hold_latest] at applied stamped
          rw [keep_hold]
          exact .changed applied stamped

@[simp] theorem Replied.isCaching (replied : Replied model key before reply after) :
    after.isCaching other = before.isCaching other := by
  cases replied with
  | missed => rfl
  | unchanged => exact isCaching_hold
  | changed => exact isCaching_keep

/-- A reply that reports nothing leaves every entity and every record as it is. -/
theorem Replied.cases (replied : Replied model key before reply after) :
    (reported reply = none ∧ after.latest model = before.latest model ∧
        after.records = before.records) ∨
      ∃ events next, reported reply = some events ∧
        (before.latest model key).applyAll model events = .ok next ∧
        Stamped model (before.latest model key).version events ∧ after = before.keep key next := by
  cases replied with
  | missed => exact .inl ⟨rfl, rfl, rfl⟩
  | unchanged silent => exact .inl ⟨silent, funext fun _ => latest_hold_latest, rfl⟩
  | changed applied stamped => exact .inr ⟨_, _, rfl, applied, stamped, rfl⟩

end Inventory

namespace Repository

variable (r : Repository β σ)

def inventory (view : r.storage.View) (c : Cached β (Root σ)) : Inventory σ where
  slots key := (c.slots.find? key).map (Option.map Root.snapshot)
  records := view.record c.backing

/-- Whatever is held of an entity is as a snapshot of it gives it. -/
def Proper (c : Cached β (Root σ)) : Prop :=
  ∀ key root, c.slots.find? key = some (some root) → root = .ofSnapshot r.model key root.snapshot

theorem cache_load_apply (key : EntityKey) (b : β) :
    r.cache.load key b =
      ((r.storage.load key b).1.map fun found =>
        .ofSnapshot r.model key (found.getD (Root.fresh r.model key).snapshot),
      (r.storage.load key b).2) := by
  simp only [cache, Computation.bind_apply]
  rcases r.storage.load key b with ⟨_ | _ | found, after⟩ <;> rfl

variable {r} {view : r.storage.View} {c : Cached β (Root σ)} {key : EntityKey}

theorem slots_of_held {root : Root σ} (held : c.held? key = some root) :
    c.slots.find? key = some (some root) := by
  simpa [Cached.held?, Option.join_eq_some_iff] using held

theorem latest_of_held {root : Root σ} (held : c.held? key = some root) :
    (r.inventory view c).latest r.model key = root.snapshot := by
  simp [Inventory.latest, inventory, slots_of_held held]

theorem latest_of_absent (absent : c.held? key = none) :
    (r.inventory view c).latest r.model key =
      (view.record c.backing key).getD (Root.fresh r.model key).snapshot := by
  cases slot : c.slots.find? key with
  | none => simp [Inventory.latest, inventory, slot]
  | some held =>
      have nothing : held = none := by simpa [Cached.held?, slot] using absent
      simp [Inventory.latest, inventory, slot, nothing]

/-- What is held in the form in which a snapshot gives it is held as that snapshot. -/
theorem inventory_hold {b : β} {s : Snapshot σ} (same : view.record b = view.record c.backing)
    (on : (r.inventory view c).isCaching key = true) :
    r.inventory view (Cached.hold { c with backing := b } key (.ofSnapshot r.model key s)) =
      (r.inventory view c).hold key s := by
  obtain ⟨held, slot⟩ := Option.isSome_iff_exists.mp on
  refine Inventory.ext (funext fun other => ?_) same
  simp only [inventory] at slot
  simp only [inventory, Cached.hold, Table.find?_insert, Inventory.hold]
  by_cases here : other = key
  · subst here
    simp [slot, Root.ofSnapshot]
  · simp [here, Ne.symm here]

theorem proper_hold {s : Snapshot σ} (proper : r.Proper c) :
    r.Proper (c.hold key (.ofSnapshot r.model key s)) := by
  intro other root found
  rw [Cached.hold, Table.find?_insert] at found
  split at found
  · rename_i here
    subst here
    cases found
    rfl
  · exact proper other root found

end Repository

end Switchboard
