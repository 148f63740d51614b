import Switchboard.Proofs.Entity.Calls
import Switchboard.Proofs.Entity.StorageView

namespace Switchboard

/-! What can be seen of the entities through a cache, held or not. -/

variable {β ε γ ρ : Type} {c : EntityCache β ε} {kept : ε → γ}

namespace EntityCache

/-- What a backing has of each entity, the part that it keeps. A call that succeeds does what
it says, and one that fails leaves everything as it is. -/
structure View (c : EntityCache β ε) (kept : ε → γ) where
  record : β → EntityKey → Option γ
  keyed : ∀ {entity other}, kept entity = kept other → c.keyOf entity = c.keyOf other
  load_ok : ∀ {key b entity}, (c.load key b).1 = .ok entity → record b key = some (kept entity)
  load_kept : ∀ key b, record (c.load key b).2 = record b
  store_ok : ∀ {entity b}, (c.store entity b).1 = .ok () → record (c.store entity b).2 =
    fun other => if other = c.keyOf entity then some (kept entity) else record b other
  store_failed : ∀ {entity b error}, (c.store entity b).1 = .error error →
    record (c.store entity b).2 = record b

/-- The entities are in a storage, each with its record under its own key. -/
structure Keeping (c : EntityCache β ε) (storage : EntityStorage β ρ) where
  read : EntityKey → Option ρ → ε
  written : ε → ρ
  load : ∀ key b, c.load key b = ((storage.load key b).1.map (read key), (storage.load key b).2)
  store : ∀ entity b, c.store entity b = storage.store (c.keyOf entity) (written entity) b

def Keeping.view {storage : EntityStorage β ρ} (keeping : c.Keeping storage) (view : storage.View)
    (kept : ε → γ) (keyed : ∀ {entity other}, kept entity = kept other → c.keyOf entity = c.keyOf other)
    (back : ∀ entity, kept (keeping.read (c.keyOf entity) (some (keeping.written entity))) = kept entity) :
    c.View kept where
  record b key := some (kept (keeping.read key (view.record b key)))
  keyed := keyed
  load_ok {key b entity} loaded := by
    rw [keeping.load] at loaded
    cases found : (storage.load key b).1 with
    | error error => rw [found] at loaded; cases loaded
    | ok record =>
        rw [found] at loaded
        cases loaded
        rw [view.load_ok found]
  load_kept key b := by simp only [keeping.load, view.load_kept]
  store_ok {entity b} stored := by
    rw [keeping.store] at stored ⊢
    funext other
    rw [view.store_ok stored]
    by_cases here : other = c.keyOf entity
    · simp only [here, if_true, back]
    · simp only [here, if_false]
  store_failed failed := by
    rw [keeping.store] at failed ⊢
    rw [view.store_failed failed]

/-- No call on a backing that is fine fails, and the backing stays fine. -/
structure Reliable (c : EntityCache β ε) (fine : β → Prop) : Prop where
  load : ∀ {b}, fine b → ∀ key, (∃ entity, (c.load key b).1 = .ok entity) ∧ fine (c.load key b).2
  store : ∀ {b}, fine b → ∀ entity, (c.store entity b).1 = .ok () ∧ fine (c.store entity b).2

theorem Keeping.reliable {storage : EntityStorage β ρ} (keeping : c.Keeping storage)
    (reliable : storage.Reliable) : c.Reliable fun _ => True where
  load {b} _ key := by
    obtain ⟨found, loaded⟩ := reliable.load key b
    exact ⟨⟨keeping.read key found, by rw [keeping.load, loaded]; rfl⟩, trivial⟩
  store {b} _ entity := ⟨by rw [keeping.store, reliable.store], trivial⟩

/-- Looking the key up loses nothing of it. -/
def Plain (c : EntityCache β ε) (key : EntityKey) : Prop := c.normalize key = key

namespace View

variable (view : c.View kept)

/-- What is recorded under a key is an entity with that key. -/
def Own (b : β) : Prop :=
  ∀ ⦃key entity⦄, view.record b key = some (kept entity) → c.keyOf entity = key

structure Proper (s : Cached β ε) : Prop where
  own : view.Own s.backing
  held : ∀ ⦃key entity⦄, s.held? key = some entity → c.normalize (c.keyOf entity) = key

/-- The entity that is held, or else the one recorded. -/
def seen (s : Cached β ε) (key : EntityKey) : Option γ :=
  ((s.held? key).map kept).or (view.record s.backing key)

variable {s : Cached β ε} {key : EntityKey} {entity : ε} {b : β} {call : CacheCall ε} {error : StorageError}

theorem own_load (own : view.Own b) (key : EntityKey) : view.Own (c.load key b).2 := by
  intro other entity found
  rw [view.load_kept] at found
  exact own found

theorem own_store (own : view.Own b) (entity : ε) : view.Own (c.store entity b).2 := by
  intro key other found
  cases stored : (c.store entity b).1 with
  | error error =>
      rw [view.store_failed stored] at found
      exact own found
  | ok =>
      simp only [view.store_ok stored] at found
      split at found
      · rename_i here
        rw [here, view.keyed (Option.some.inj found)]
      · exact own found

theorem proper_cold (own : view.Own b) : view.Proper (.cold b) :=
  ⟨own, fun _ _ found => by cases found⟩

theorem proper_call (proper : view.Proper s) (call : CacheCall ε) : view.Proper (c.call call s).2 where
  own := by
    rcases backing_call s call with same | ⟨key, same⟩ | ⟨entity, -, same⟩ <;> rw [same]
    · exact proper.own
    · exact view.own_load proper.own key
    · exact view.own_store proper.own entity
  held key entity found := by
    rcases held_call found with before | ⟨loaded, asked, -, rfl⟩ | ⟨-, here⟩
    · exact proper.held before
    · rw [proper.own (view.load_ok loaded), normalize_normalize]
    · exact here

/-! What each call changes of what is seen. -/

theorem seen_startCaching : view.seen (c.startCaching key s).2 = view.seen s := by
  funext other
  simp only [seen, held?_startCaching, backing_startCaching]

theorem seen_of_read (read : (c.read key s).1 = .ok entity) :
    view.seen s (c.normalize key) = some (kept entity) := by
  cases held : s.held? (c.normalize key) with
  | some entity =>
      rw [read_held held] at read
      cases read
      simp [seen, held]
  | none =>
      rcases loaded : c.load (c.normalize key) s.backing with ⟨_ | found, after⟩
      · rw [read_failed held loaded] at read
        cases read
      · rw [read_loaded held loaded] at read
        cases read
        simp [seen, held, view.load_ok (congrArg Prod.fst loaded)]

theorem seen_read : view.seen (c.read key s).2 = view.seen s := by
  cases held : s.held? (c.normalize key) with
  | some entity => rw [read_held held]
  | none =>
      have records := view.load_kept (c.normalize key) s.backing
      funext other
      rcases loaded : c.load (c.normalize key) s.backing with ⟨_ | found, after⟩ <;> rw [loaded] at records
      · rw [read_failed held loaded]
        simp only [seen, Cached.held?_behind, records]
      · have record := view.load_ok (congrArg Prod.fst loaded)
        rw [read_loaded held loaded]
        split
        · by_cases here : c.normalize key = other
          · subst here
            simp [seen, held, record]
          · simp [seen, here, records]
        · simp only [seen, Cached.held?_behind, records]

/-- An entity that is held and has all of its key is written where it is looked up. -/
theorem record_stopped (proper : view.Proper s) (plain : c.Plain (c.keyOf entity))
    (held : s.held? (c.normalize key) = some entity) (stored : c.store entity s.backing = (.ok (), b)) :
    view.record b = fun other =>
      if other = c.normalize key then some (kept entity) else view.record s.backing other := by
  have there : c.keyOf entity = c.normalize key := plain.symm.trans (proper.held held)
  have records := view.store_ok (congrArg Prod.fst stored)
  rwa [stored, there] at records

/-- Writing what is held makes no difference to what is seen. -/
theorem seen_stopCaching (proper : view.Proper s)
    (plain : ∀ entity, s.held? (c.normalize key) = some entity → c.Plain (c.keyOf entity)) :
    view.seen (c.stopCaching key s).2 = view.seen s := by
  cases held : s.held? (c.normalize key) with
  | none => rw [stopCaching_absent held]
  | some entity =>
      funext other
      rcases stored : c.store entity s.backing with ⟨error | _, after⟩
      · have records := view.store_failed (congrArg Prod.fst stored)
        rw [stored] at records
        rw [stopCaching_failed held stored]
        simp only [seen, Cached.held?_behind, records]
      · rw [stopCaching_stored held stored]
        simp only [seen, Cached.held?_erase, view.record_stopped proper (plain entity held) held stored]
        by_cases here : c.normalize key = other
        · simp [← here, held]
        · simp [here, Ne.symm here]

theorem record_of_stopped (proper : view.Proper s)
    (plain : ∀ entity, s.held? (c.normalize key) = some entity → c.Plain (c.keyOf entity))
    (stopped : (c.stopCaching key s).1 = .ok ()) :
    view.record (c.stopCaching key s).2.backing (c.normalize key) = view.seen s (c.normalize key) := by
  cases held : s.held? (c.normalize key) with
  | none =>
      rw [stopCaching_absent held] at stopped
      cases stopped
  | some entity =>
      rcases stored : c.store entity s.backing with ⟨error | _, after⟩
      · rw [stopCaching_failed held stored] at stopped
        cases stopped
      · rw [stopCaching_stored held stored]
        simp [view.record_stopped proper (plain entity held) held stored, seen, held]

theorem seen_write (plain : c.isCaching s (c.keyOf entity) = false → c.Plain (c.keyOf entity))
    (stored : (c.write entity s).1 = .ok ()) :
    view.seen (c.write entity s).2 = fun other =>
      if other = c.normalize (c.keyOf entity) then some (kept entity) else view.seen s other := by
  funext other
  cases on : c.isCaching s (c.keyOf entity) with
  | true =>
      rw [write_cached on]
      by_cases here : other = c.normalize (c.keyOf entity)
      · simp [seen, here]
      · simp [seen, here, Ne.symm here]
  | false =>
      have absent := held?_of_off on
      rw [plain on] at absent ⊢
      rw [write_through on] at stored ⊢
      simp only [seen, Cached.held?_behind, view.store_ok stored]
      by_cases here : other = c.keyOf entity
      · simp [here, absent]
      · simp [here]

theorem seen_write_failed (failed : (c.write entity s).1 = .error error) :
    view.seen (c.write entity s).2 = view.seen s := by
  cases on : c.isCaching s (c.keyOf entity) with
  | true =>
      rw [write_cached on] at failed
      cases failed
  | false =>
      rw [write_through on] at failed ⊢
      funext other
      simp only [seen, Cached.held?_behind, view.store_failed failed]

end View

end EntityCache

end Switchboard
