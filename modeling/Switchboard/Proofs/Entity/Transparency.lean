import Switchboard.Proofs.Entity.Caching
import Switchboard.Proofs.Sample.Notebook

namespace Switchboard

/-! A cache shows what its backing would, and what it holds is written before caching ends. -/

variable {β ε γ : Type} {c : EntityCache β ε} {kept : ε → γ}

namespace EntityCache

variable {s : Cached β ε} {key : EntityKey} {b : β} {call : CacheCall ε} {calls : List (CacheCall ε)}

/-- Each entity that is held has all of its key. -/
def HoldsPlain (c : EntityCache β ε) (s : Cached β ε) : Prop :=
  ∀ ⦃key entity⦄, s.held? key = some entity → c.Plain (c.keyOf entity)

/-- While caching is off for a key, its calls are those of the backing. -/
theorem read_uncached (plain : c.Plain key) (off : c.isCaching s key = false) :
    c.read key s = ((c.load key s.backing).1, { s with backing := (c.load key s.backing).2 }) := by
  have absent := held?_of_off off
  rcases loaded : c.load key s.backing with ⟨error | entity, after⟩
  · exact read_failed absent (by rwa [plain])
  · rw [read_loaded absent (by rwa [plain]), if_neg (by simpa using off)]

namespace View

variable (view : c.View kept)

/-- What the calls on a cache in that state do, by what can be seen. -/
structure Transparent (s : Cached β ε) : Prop where
  starting : ∀ key, view.seen (c.startCaching key s).2 = view.seen s
  stopping : ∀ key, view.seen (c.stopCaching key s).2 = view.seen s
  stopped : ∀ {key}, c.Plain key → (c.stopCaching key s).1 = .ok () →
    c.isCaching (c.stopCaching key s).2 key = false ∧
      view.record (c.stopCaching key s).2.backing key = view.seen s key
  loading : ∀ key, view.seen (c.read key s).2 = view.seen s
  loaded : ∀ {key entity}, c.Plain key → (c.read key s).1 = .ok entity →
    view.seen s key = some (kept entity)
  stored : ∀ {entity}, c.Plain (c.keyOf entity) → (c.write entity s).1 = .ok () →
    view.seen (c.write entity s).2 = fun other =>
      if other = c.keyOf entity then some (kept entity) else view.seen s other
  refused : ∀ {entity error}, (c.write entity s).1 = .error error →
    view.seen (c.write entity s).2 = view.seen s
  /-- Whatever the backing would do, it is not asked for an entity that is held. -/
  held : ∀ {key entity}, c.Plain key → s.held? key = some entity → ∀ load store,
    read { c with load, store } key s = (.ok entity, s) ∧
      ∀ other, c.keyOf other = key → write { c with load, store } other s = (.ok (), s.hold key other)
  uncached : ∀ {key}, c.Plain key → c.isCaching s key = false →
    view.seen s key = view.record s.backing key ∧
      c.read key s = ((c.load key s.backing).1, { s with backing := (c.load key s.backing).2 }) ∧
      ∀ entity, c.keyOf entity = key → c.write entity s =
        ((c.store entity s.backing).1, { s with backing := (c.store entity s.backing).2 })

theorem transparent_of_proper (proper : view.Proper s) (holds : c.HoldsPlain s) : view.Transparent s where
  starting _ := view.seen_startCaching
  stopping _ := view.seen_stopCaching proper fun _ held => holds held
  stopped {key} plain stopped := by
    have record := view.record_of_stopped proper (fun _ held => holds held) stopped
    rw [plain] at record
    refine ⟨isCaching_eq_false.mpr ?_, record⟩
    rw [caching_stopCaching, stopped, if_pos ⟨rfl, rfl⟩]
  loading _ := view.seen_read
  loaded {key entity} plain loaded := by
    rw [← plain]
    exact view.seen_of_read loaded
  stored {entity} plain stored := by
    have seen := view.seen_write (fun _ => plain) stored
    rwa [plain] at seen
  refused failed := view.seen_write_failed failed
  held {key entity} plain held load store := by
    have there : s.held? (c.normalize key) = some entity := by rwa [plain]
    refine ⟨read_held there, fun other same => ?_⟩
    have on : c.isCaching s (c.keyOf other) = true := by
      rw [same, isCaching_iff, holding_iff.mpr ⟨entity, there⟩]
      decide
    have written := write_cached (c := { c with load, store }) on
    have place : c.normalize (c.keyOf other) = key := by rw [same, plain]
    rw [written]
    exact congrArg (fun place => (_, s.hold place other)) place
  uncached {key} plain off := by
    have absent := held?_of_off off
    rw [plain] at absent
    refine ⟨by simp [seen, absent], read_uncached plain off, fun entity same => ?_⟩
    exact write_through (by rwa [same])

/-- A load holds what is recorded under its key, so only storing could bring another key in. -/
theorem holdsPlain_call (proper : view.Proper s) (holds : c.HoldsPlain s) (plain : c.Plain (c.keyIn call)) :
    c.HoldsPlain (c.call call s).2 := by
  intro key entity found
  rcases held_call found with before | ⟨loaded, asked, -, rfl⟩ | ⟨rfl, -⟩
  · exact holds before
  · rw [proper.own (view.load_ok loaded)]
    exact normalize_normalize asked
  · exact plain

theorem transparent (own : view.Own b) (plain : ∀ call ∈ calls, c.Plain (c.keyIn call)) :
    view.Transparent (c.callAll calls (.cold b)).2 ∧
      ∀ key, c.Plain key → (∀ asked, .startCaching asked ∈ calls → asked ≠ key) →
        c.isCaching (c.callAll calls (.cold b)).2 key = false := by
  constructor
  · have kept : view.Proper (c.callAll calls (.cold b)).2 ∧ c.HoldsPlain (c.callAll calls (.cold b)).2 :=
      callAll_keeps (fun s => view.Proper s ∧ c.HoldsPlain s)
        (fun call member _ kept =>
          ⟨view.proper_call kept.1 call, view.holdsPlain_call kept.1 kept.2 (plain call member)⟩)
        ⟨view.proper_cold own, fun _ _ found => by cases found⟩
    exact view.transparent_of_proper kept.1 kept.2
  · intro key all never
    rw [isCaching_eq_false, all]
    refine callAll_keeps (fun s => s.caching key = .off) (fun call member s off => ?_) rfl
    refine caching_call off fun asked started => ?_
    subst started
    have whole : c.normalize asked = asked := plain _ member
    rw [whole]
    exact never asked member

open Sample in
theorem transparent_drafting :
    let s := ((Note.cache false).callAll Note.drafting (.cold (Note.notebook .none Note.diskFull))).2
    (Note.view false).seen s Note.page.key = some Note.page ∧
      ((Note.cache false).stopCaching Note.page.key s).1 = .ok () ∧
      (Note.view false).record ((Note.cache false).stopCaching Note.page.key s).2.backing Note.page.key =
        some Note.page := by
  intro s
  have plain : ∀ call ∈ Note.drafting, (Note.cache false).Plain ((Note.cache false).keyIn call) := by
    simp only [Note.drafting, List.forall_mem_cons, List.not_mem_nil, false_imp_iff, implies_true]
    exact ⟨rfl, rfl, rfl, rfl, trivial⟩
  have clear := (transparent (Note.view false) (Note.own_notebook false .none Note.diskFull) plain).1
  have whole : (Note.cache false).Plain Note.page.key := rfl
  have seen := clear.loaded whole rfl
  have stopped : ((Note.cache false).stopCaching Note.page.key s).1 = .ok () := rfl
  exact ⟨seen, stopped, (clear.stopped whole stopped).2.trans seen⟩

end View

end EntityCache

end Switchboard
