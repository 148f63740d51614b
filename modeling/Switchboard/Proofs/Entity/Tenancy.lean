import Mathlib.Data.List.Forall2
import Switchboard.Proofs.Entity.Caching
import Switchboard.Proofs.Repository.Inventory
import Switchboard.Proofs.Sample.Branch
import Switchboard.Proofs.Sample.Notebook

namespace Switchboard

/-! Tenants make no difference to a cache that does not tell them apart, as long as the
entities that reach its backing have none.

An entity is written under its own key, tenant and all, but looked up without the tenant. -/

variable {β ε γ δ : Type} {c : EntityCache β ε} {kept : ε → γ} {body : γ → δ}

/-- The keys differ in the tenant at most. -/
def EntityKey.Namesakes (key other : EntityKey) : Prop := key.type = other.type ∧ key.id = other.id

/-- Calls that differ in tenants at most. -/
inductive CacheCall.Alike (c : EntityCache β ε) (content : ε → δ) : CacheCall ε → CacheCall ε → Prop where
  | startCaching {key other : EntityKey} (same : key.Namesakes other) :
      Alike c content (.startCaching key) (.startCaching other)
  | stopCaching {key other : EntityKey} (same : key.Namesakes other) :
      Alike c content (.stopCaching key) (.stopCaching other)
  | load {key other : EntityKey} (same : key.Namesakes other) : Alike c content (.load key) (.load other)
  | store {entity other : ε} (same : (c.keyOf entity).Namesakes (c.keyOf other))
      (told : content entity = content other) : Alike c content (.store entity) (.store other)

/-- Answers that differ in the tenant of an entity at most. -/
inductive CacheAnswer.Alike (c : EntityCache β ε) (content : ε → δ) :
    CacheAnswer ε → CacheAnswer ε → Prop where
  | same (answer : CacheAnswer ε) : Alike c content answer answer
  | loaded {entity other : ε} (same : (c.keyOf entity).Namesakes (c.keyOf other))
      (told : content entity = content other) : Alike c content (.loaded (.ok entity)) (.loaded (.ok other))

theorem CacheAnswer.Alike.told {content : ε → δ} {entity other : ε}
    (alike : CacheAnswer.Alike c content (.loaded (.ok entity)) (.loaded (.ok other))) :
    content entity = content other := by
  cases alike with
  | same => rfl
  | loaded _ told => exact told

namespace EntityCache

/-- Every entity that the calls hand on to the backing has all of its key. -/
def PassesPlain (c : EntityCache β ε) : List (CacheCall ε) → Cached β ε → Prop
  | [], _ => True
  | call :: rest, s =>
      (∀ entity, c.passed s call = some entity → c.Plain (c.keyOf entity)) ∧ c.PassesPlain rest (c.call call s).2

theorem PassesPlain.append {before after : List (CacheCall ε)} {s : Cached β ε}
    (plain : c.PassesPlain (before ++ after) s) : c.PassesPlain after (c.callAll before s).2 := by
  induction before generalizing s with
  | nil => exact plain
  | cons call rest ih =>
      rw [callAll_cons]
      exact ih plain.2

section Single

variable (single : c.multitenant = false)
include single

theorem normalize_eq_iff {key other : EntityKey} : c.normalize key = c.normalize other ↔ key.Namesakes other := by
  simp [normalize, single, EntityKey.Namesakes]

theorem plain_iff {key : EntityKey} : c.Plain key ↔ key.tenant = none := by
  obtain ⟨tenant, type, id⟩ := key
  simp [Plain, normalize, single, eq_comm]

end Single

namespace Reliable

variable {fine : β → Prop} (reliable : c.Reliable fine) {s : Cached β ε} (well : fine s.backing)
include reliable well

theorem stopCaching (key : EntityKey) : (c.stopCaching key s).1 =
    if s.caching (c.normalize key) = .holding then .ok () else .error (.notCached (c.normalize key)) := by
  cases held : s.held? (c.normalize key) with
  | none =>
      have idle : s.caching (c.normalize key) ≠ .holding := by
        intro holding
        obtain ⟨entity, here⟩ := holding_iff.mp holding
        rw [held] at here
        cases here
      rw [if_neg idle, stopCaching_absent held]
  | some entity =>
      have stored : c.store entity s.backing = (.ok (), (c.store entity s.backing).2) :=
        Prod.ext (reliable.store well entity).1 rfl
      rw [if_pos (holding_iff.mpr ⟨entity, held⟩), stopCaching_stored held stored]

theorem read (key : EntityKey) : ∃ entity, (c.read key s).1 = .ok entity := by
  cases held : s.held? (c.normalize key) with
  | some entity => exact ⟨entity, by rw [read_held held]⟩
  | none =>
      obtain ⟨entity, loaded⟩ := (reliable.load well (c.normalize key)).1
      exact ⟨entity, by rw [read_loaded held (Prod.ext loaded rfl)]⟩

theorem write (entity : ε) : (c.write entity s).1 = .ok () := by
  cases on : c.isCaching s (c.keyOf entity) with
  | true => rw [write_cached on]
  | false => rw [write_through on, (reliable.store well entity).1]

theorem call (call : CacheCall ε) : fine (c.call call s).2.backing := by
  rcases backing_call s call with same | ⟨key, same⟩ | ⟨entity, -, same⟩ <;> rw [same]
  · exact well
  · exact (reliable.load well key).2
  · exact (reliable.store well entity).2

end Reliable

namespace View

variable (view : c.View kept)

/-- An entity that is read has the key it is asked for under, the tenant apart. -/
theorem key_of_read {s : Cached β ε} {key : EntityKey} {entity : ε} (proper : view.Proper s)
    (read : (c.read key s).1 = .ok entity) : c.normalize (c.keyOf entity) = c.normalize key := by
  cases held : s.held? (c.normalize key) with
  | some found =>
      rw [read_held held] at read
      cases read
      exact proper.held held
  | none =>
      rcases loaded : c.load (c.normalize key) s.backing with ⟨_ | found, after⟩
      · rw [read_failed held loaded] at read
        cases read
      · rw [read_loaded held loaded] at read
        cases read
        rw [proper.own (view.load_ok (congrArg Prod.fst loaded)), normalize_normalize]

/-- Nothing is out of place, and the backing is fine. -/
structure Sound (fine : β → Prop) (s : Cached β ε) : Prop extends view.Proper s where
  well : fine s.backing

theorem sound_call {fine : β → Prop} (reliable : c.Reliable fine) {s : Cached β ε} (sound : view.Sound fine s)
    (call : CacheCall ε) : view.Sound fine (c.call call s).2 :=
  ⟨view.proper_call sound.toProper call, reliable.call sound.well call⟩

theorem sound_callAll {fine : β → Prop} (reliable : c.Reliable fine) {s : Cached β ε} (sound : view.Sound fine s)
    (calls : List (CacheCall ε)) : view.Sound fine (c.callAll calls s).2 :=
  callAll_keeps (view.Sound fine) (fun call _ _ sound => view.sound_call reliable sound call) sound

/-- The same is held and seen under every key that is looked up. -/
structure Alike (body : γ → δ) (s t : Cached β ε) : Prop where
  caching : ∀ ⦃key⦄, c.Plain key → s.caching key = t.caching key
  seen : ∀ ⦃key⦄, c.Plain key → (view.seen s key).map body = (view.seen t key).map body

namespace Alike

variable {view} {fine : β → Prop} (single : c.multitenant = false) (reliable : c.Reliable fine)
  {s t : Cached β ε}
  (alike : view.Alike body s t) {key other : EntityKey} {entity stored : ε}

include alike

theorem startCaching (place : c.normalize key = c.normalize other) :
    view.Alike body (c.startCaching key s).2 (c.startCaching other t).2 where
  caching whole plain := by rw [caching_startCaching, caching_startCaching, place, alike.caching plain]
  seen whole plain := by rw [view.seen_startCaching, view.seen_startCaching, alike.seen plain]

include reliable

theorem stopCaching (first : view.Sound fine s) (second : view.Sound fine t)
    (place : c.normalize key = c.normalize other)
    (plain : ∀ entity, s.held? (c.normalize key) = some entity → c.Plain (c.keyOf entity))
    (plains : ∀ entity, t.held? (c.normalize other) = some entity → c.Plain (c.keyOf entity)) :
    (c.stopCaching key s).1 = (c.stopCaching other t).1 ∧
      view.Alike body (c.stopCaching key s).2 (c.stopCaching other t).2 := by
  have caching := alike.caching (normalize_normalize other)
  have same : (c.stopCaching key s).1 = (c.stopCaching other t).1 := by
    rw [reliable.stopCaching first.well, reliable.stopCaching second.well, place, caching]
  refine ⟨same, fun whole plain => ?_, fun whole known => ?_⟩
  · rw [caching_stopCaching, caching_stopCaching, same, place, alike.caching plain]
  · rw [view.seen_stopCaching first.toProper plain, view.seen_stopCaching second.toProper plains,
      alike.seen known]

theorem read (first : view.Sound fine s) (second : view.Sound fine t) (place : c.normalize key = c.normalize other) :
    ∃ entity found, (c.read key s).1 = .ok entity ∧ (c.read other t).1 = .ok found ∧
      c.normalize (c.keyOf entity) = c.normalize (c.keyOf found) ∧ body (kept entity) = body (kept found) ∧
      view.Alike body (c.read key s).2 (c.read other t).2 := by
  obtain ⟨entity, read⟩ := reliable.read first.well key
  obtain ⟨found, reread⟩ := reliable.read second.well other
  have seen := alike.seen (normalize_normalize other)
  rw [← place, view.seen_of_read read, place, view.seen_of_read reread] at seen
  refine ⟨entity, found, read, reread, ?_, Option.some.inj seen, fun whole plain => ?_, fun whole plain => ?_⟩
  · rw [view.key_of_read first.toProper read, view.key_of_read second.toProper reread, place]
  · rw [caching_read, caching_read, read, reread, place, alike.caching plain]
    rfl
  · rw [view.seen_read, view.seen_read, alike.seen plain]

theorem write (first : view.Sound fine s) (second : view.Sound fine t)
    (place : c.normalize (c.keyOf entity) = c.normalize (c.keyOf stored))
    (told : body (kept entity) = body (kept stored))
    (plain : c.isCaching s (c.keyOf entity) = false → c.Plain (c.keyOf entity))
    (plains : c.isCaching t (c.keyOf stored) = false → c.Plain (c.keyOf stored)) :
    view.Alike body (c.write entity s).2 (c.write stored t).2 where
  caching whole known := by rw [caching_write, caching_write, place, alike.caching known]
  seen whole known := by
    rw [view.seen_write plain (reliable.write first.well entity),
      view.seen_write plains (reliable.write second.well stored)]
    simp only [place]
    split
    · simp only [Option.map_some, told]
    · exact alike.seen known

include single

theorem call {call meant : CacheCall ε} (first : view.Sound fine s) (second : view.Sound fine t)
    (plain : ∀ entity, c.passed s call = some entity → c.Plain (c.keyOf entity))
    (plains : ∀ entity, c.passed t meant = some entity → c.Plain (c.keyOf entity))
    (like : call.Alike c (body ∘ kept) meant) :
    (c.call call s).1.Alike c (body ∘ kept) (c.call meant t).1 ∧
      view.Alike body (c.call call s).2 (c.call meant t).2 := by
  cases like with
  | startCaching same =>
      exact ⟨.same _, alike.startCaching ((normalize_eq_iff single).mpr same)⟩
  | stopCaching same =>
      obtain ⟨result, after⟩ :=
        alike.stopCaching reliable first second ((normalize_eq_iff single).mpr same) plain plains
      simp only [EntityCache.call, Computation.map_apply, result]
      exact ⟨.same _, after⟩
  | load same =>
      obtain ⟨entity, found, read, reread, place, told, after⟩ :=
        alike.read reliable first second ((normalize_eq_iff single).mpr same)
      simp only [EntityCache.call, Computation.map_apply, read, reread]
      exact ⟨.loaded ((normalize_eq_iff single).mp place) told, after⟩
  | @store entity stored same told =>
      have after := alike.write reliable first second ((normalize_eq_iff single).mpr same) told
        (fun off => plain entity (by simp [passed, off])) (fun off => plains stored (by simp [passed, off]))
      simp only [EntityCache.call, Computation.map_apply, reliable.write first.well, reliable.write second.well]
      exact ⟨.same _, after⟩

theorem callAll {calls others : List (CacheCall ε)} (first : view.Sound fine s) (second : view.Sound fine t)
    (like : List.Forall₂ (CacheCall.Alike c (body ∘ kept)) calls others)
    (plain : c.PassesPlain calls s) (plains : c.PassesPlain others t) :
    List.Forall₂ (CacheAnswer.Alike c (body ∘ kept)) (c.callAll calls s).1 (c.callAll others t).1 := by
  induction like generalizing s t with
  | nil => exact .nil
  | @cons call meant _ _ same _ ih =>
      obtain ⟨answer, after⟩ := alike.call single reliable first second plain.1 plains.1 same
      rw [callAll_cons, callAll_cons]
      exact .cons answer (ih after (view.sound_call reliable first call)
        (view.sound_call reliable second meant) plain.2 plains.2)

end Alike

variable {view} {fine : β → Prop} (reliable : c.Reliable fine) {s : Cached β ε} {key : EntityKey} {b : β}

section Reliable

include reliable

theorem seen_call {call : CacheCall ε} (sound : view.Sound fine s)
    (plain : ∀ entity, c.passed s call = some entity → c.Plain (c.keyOf entity))
    (other : ∀ entity, call = .store entity → c.normalize (c.keyOf entity) ≠ key) :
    view.seen (c.call call s).2 key = view.seen s key := by
  cases call with
  | startCaching asked => simp only [call, Computation.map_apply, view.seen_startCaching]
  | stopCaching asked => simp only [call, Computation.map_apply, view.seen_stopCaching sound.toProper plain]
  | load asked => simp only [call, Computation.map_apply, view.seen_read]
  | store entity =>
      have passes (off : c.isCaching s (c.keyOf entity) = false) : c.Plain (c.keyOf entity) :=
        plain entity (by simp [passed, off])
      simp only [call, Computation.map_apply, view.seen_write passes (reliable.write sound.well entity)]
      rw [if_neg (Ne.symm (other entity rfl))]

theorem seen_callAll {calls : List (CacheCall ε)} (sound : view.Sound fine s) (plain : c.PassesPlain calls s)
    (other : ∀ entity, .store entity ∈ calls → c.normalize (c.keyOf entity) ≠ key) :
    view.seen (c.callAll calls s).2 key = view.seen s key := by
  induction calls generalizing s with
  | nil => rfl
  | cons call rest ih =>
      rw [callAll_cons, ih (view.sound_call reliable sound call) plain.2 fun entity among => other entity (.tail _ among)]
      exact seen_call reliable sound plain.1 fun entity here => other entity (here ▸ .head _)

/-- A load gives the entity that was stored last under its key, whatever came in between. -/
theorem read_last {before after : List (CacheCall ε)} {entity : ε} (sound : view.Sound fine s)
    (plain : c.PassesPlain (before ++ .store entity :: after) s)
    (place : c.normalize key = c.normalize (c.keyOf entity))
    (last : ∀ later, .store later ∈ after → c.normalize (c.keyOf later) ≠ c.normalize (c.keyOf entity)) :
    ∃ found, (c.read key (c.callAll (before ++ .store entity :: after) s).2).1 = .ok found ∧
      kept found = kept entity := by
  obtain ⟨passes, later⟩ := plain.append
  have earlier := view.sound_callAll reliable sound before
  have ended := view.sound_callAll reliable sound (before ++ .store entity :: after)
  obtain ⟨found, read⟩ := reliable.read ended.well key
  refine ⟨found, read, ?_⟩
  have seen := view.seen_of_read read
  rw [callAll_append, callAll_cons, seen_callAll reliable (view.sound_call reliable earlier _) later (by rwa [place]),
    place] at seen
  simp only [call, Computation.map_apply] at seen
  rw [view.seen_write (fun off => passes entity (by simp [passed, off])) (reliable.write earlier.well entity)] at seen
  simp only [if_true] at seen
  exact (Option.some.inj seen).symm

end Reliable

/-- What is handed on with a tenant is recorded where no call looks. -/
theorem record_passed (single : c.multitenant = false) {call : CacheCall ε} {entity : ε}
    (passed : c.passed s call = some entity) (tenant : (c.keyOf entity).tenant ≠ none) (whole : c.Plain key) :
    view.record (c.call call s).2.backing key = view.record s.backing key := by
  rcases backing_call s call with same | ⟨asked, same⟩ | ⟨handed, given, same⟩ <;> rw [same]
  · rw [view.load_kept]
  · rw [passed] at given
    cases given
    cases stored : (c.store entity s.backing).1 with
    | error error => rw [view.store_failed stored]
    | ok =>
        have elsewhere : key ≠ c.keyOf entity := by
          rintro rfl
          exact tenant ((plain_iff single).mp whole)
        rw [view.store_ok stored]
        exact if_neg elsewhere

theorem tenant_ignored (view : c.View kept) (body : γ → δ) (single : c.multitenant = false)
    (reliable : c.Reliable fine) (well : fine b) (own : view.Own b) :
    (∀ calls others, List.Forall₂ (CacheCall.Alike c (body ∘ kept)) calls others →
      c.PassesPlain calls (.cold b) → c.PassesPlain others (.cold b) →
      List.Forall₂ (CacheAnswer.Alike c (body ∘ kept)) (c.callAll calls (.cold b)).1
        (c.callAll others (.cold b)).1) ∧
    (∀ before entity after key, EntityKey.Namesakes key (c.keyOf entity) →
      (∀ later, .store later ∈ after → ¬(c.keyOf later).Namesakes (c.keyOf entity)) →
      c.PassesPlain (before ++ .store entity :: after) (.cold b) →
      ∃ found, (c.read key (c.callAll (before ++ .store entity :: after) (.cold b)).2).1 = .ok found ∧
        kept found = kept entity) ∧
    ∀ s call entity, c.passed s call = some entity → (c.keyOf entity).tenant ≠ none →
      ∀ key, c.Plain key → view.record (c.call call s).2.backing key = view.record s.backing key := by
  have sound : view.Sound fine (.cold b) := ⟨view.proper_cold own, well⟩
  refine ⟨fun calls others like plain plains => ?_, fun before entity after key same last plain => ?_,
    fun s call entity passed tenant key whole => record_passed single passed tenant whole⟩
  · have same : view.Alike body (.cold b) (.cold b) := ⟨fun _ _ => rfl, fun _ _ => rfl⟩
    exact same.callAll single reliable sound sound like plain plains
  · exact read_last reliable sound plain ((normalize_eq_iff single).mpr same)
      fun later among place => last later among ((normalize_eq_iff single).mp place)

end View

end EntityCache

namespace Repository

variable {σ : Type} (r : Repository β σ)

def keeping : r.cache.Keeping r.storage where
  read key found := .ofSnapshot r.model key (found.getD (Root.fresh r.model key).snapshot)
  written := Root.snapshot
  load := cache_load_apply r
  store _ _ := rfl

/-- Of an entity its snapshot is kept, but none of the events that wait to be taken. -/
def cacheView (view : r.storage.View) : r.cache.View fun root => (root.key, root.snapshot) :=
  r.keeping.view view _ (congrArg Prod.fst) fun _ => rfl

theorem own_cacheView (view : r.storage.View) (b : β) : (r.cacheView view).Own b := by
  intro key root found
  exact (congrArg Prod.fst (Option.some.inj found)).symm

end Repository

namespace EntityCache.View

open Sample

theorem rereading_alike :
    List.Forall₂ (CacheCall.Alike (Note.cache false) Note.body) (Note.rereading Note.tenants)
      (Note.rereading Note.page) :=
  .cons (.store ⟨rfl, rfl⟩ rfl) (.cons (.load ⟨rfl, rfl⟩) .nil)

/-- While caching is on, a tenant makes no difference to a page or to an account. -/
theorem tenant_ignored_shared :
    List.Forall₂ (CacheAnswer.Alike (Note.cache false) Note.body)
      ((Note.cache false).callAll (.startCaching Note.tenants.key :: Note.rereading Note.tenants)
        (.cold (Note.notebook .none .none))).1
      ((Note.cache false).callAll (.startCaching Note.page.key :: Note.rereading Note.page)
        (.cold (Note.notebook .none .none))).1 ∧
    ∃ found, (Branch.archive.cache.read Branch.clerk.key
        (Branch.archive.cache.callAll [.startCaching Branch.tenants.key, .store Branch.tenants]
          (.cold ⟨.empty, []⟩)).2).1 = .ok found ∧ found.snapshot = Branch.tenants.snapshot := by
  constructor
  · have ignored := tenant_ignored (Note.view false) Note.body rfl (Note.reliable false)
      Note.faultless_notebook (Note.own_notebook false .none .none)
    refine ignored.1 _ _ (.cons (.startCaching ⟨rfl, rfl⟩) rereading_alike) ?_ ?_
    · exact ⟨fun _ passed => (nomatch passed), fun _ passed => (nomatch passed), fun _ passed => (nomatch passed), trivial⟩
    · exact ⟨fun _ passed => (nomatch passed), fun _ passed => (nomatch passed), fun _ passed => (nomatch passed), trivial⟩
  · have reliable := Branch.archive.keeping.reliable (Logged.reliable MemoryRecords.reliable)
    have ignored := tenant_ignored (Branch.archive.cacheView Branch.archiveView) Prod.snd rfl reliable
      trivial (Branch.archive.own_cacheView Branch.archiveView ⟨.empty, []⟩)
    obtain ⟨found, read, same⟩ := ignored.2.1 [.startCaching Branch.tenants.key] Branch.tenants []
      Branch.clerk.key ⟨rfl, rfl⟩ (fun _ among => (nomatch among))
      ⟨fun _ passed => (nomatch passed), fun _ passed => (nomatch passed), trivial⟩
    exact ⟨found, read, congrArg Prod.snd same⟩

/-- A page that is written with its tenant is not found again, not even by its own key. -/
theorem tenant_noticed :
    List.Forall₂ (CacheCall.Alike (Note.cache false) Note.body) (Note.rereading Note.tenants)
      (Note.rereading Note.page) ∧
    ¬List.Forall₂ (CacheAnswer.Alike (Note.cache false) Note.body)
      ((Note.cache false).callAll (Note.rereading Note.tenants) (.cold (Note.notebook .none .none))).1
      ((Note.cache false).callAll (Note.rereading Note.page) (.cold (Note.notebook .none .none))).1 ∧
    ((Note.cache false).read Note.tenants.key
      ((Note.cache false).write Note.tenants (.cold (Note.notebook .none .none))).2).1 =
        .ok ⟨Note.page.key, .null⟩ := by
  refine ⟨rereading_alike, fun alike => ?_, rfl⟩
  have answers : CacheAnswer.Alike (Note.cache false) Note.body
      (.loaded (.ok ⟨Note.page.key, .null⟩)) (.loaded (.ok Note.page)) := by
    cases alike with
    | cons _ rest =>
        cases rest with
        | cons answer _ => exact answer
  have told : Json.null = Note.page.body := answers.told
  cases told

end EntityCache.View

end Switchboard
