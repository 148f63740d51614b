import Switchboard.Proofs.Bus.Legality
import Switchboard.Proofs.Sample.Office

namespace Switchboard

/-! Serving requests one after another, whatever each of them comes to. Every signal lives as it
may, over any number of posts and sweeps. -/

variable {ω : Type}

inductive BusRequest (ω : Type) where
  | post (fuel : Nat) (observer : Observer ω) (signal : Signal)
  | postAll (fuel : Nat) (observer : Observer ω) (signals : List Signal)
  | sweep (fuel : Nat)

namespace BusRequest

def posted : BusRequest ω → List SignalId
  | .post _ _ signal => [signal.id]
  | .postAll _ _ signals => signals.map (·.id)
  | .sweep _ => []

def recorded : BusRequest ω → BusRequest (Recorded ω)
  | .post fuel observer signal => .post fuel observer.recorded signal
  | .postAll fuel observer signals => .postAll fuel observer.recorded signals
  | .sweep fuel => .sweep fuel

/-- Whoever is told of acknowledgements leaves the signal store alone. -/
def Apart {store : SignalStore ω} (view : store.View) : BusRequest ω → Prop
  | .post _ observer _ => observer.Apart view
  | .postAll _ observer _ => observer.Apart view
  | .sweep _ => True

/-- Whoever is told of acknowledgements does not change the records of signals otherwise. -/
def Respects {store : SignalStore ω} (view : store.View) (change : SignalRecords → SignalRecords → Prop) :
    BusRequest ω → Prop
  | .post _ observer _ => observer.Respects view change
  | .postAll _ observer _ => observer.Respects view change
  | .sweep _ => True

end BusRequest

namespace Bus

/-- Serves a request. One that breaks off leaves what it has done. -/
def serve (b : Bus ω) (w : World ω) : BusRequest ω → World ω
  | .post fuel observer signal => (b.post fuel observer signal w).2
  | .postAll fuel observer signals => (b.postAll fuel observer signals w).2
  | .sweep fuel => (b.sweep fuel w).2

def serveAll (b : Bus ω) (requests : List (BusRequest ω)) (w : World ω) : World ω :=
  requests.foldl b.serve w

/-- Every signal lives as it may, from the records at the start. -/
def Alive (b : Bus ω) (start : SignalRecords) (past : List Call) : Prop :=
  ∀ id, b.Lives id ((start id).map (·.status)) (trail id past)

/-- Further calls let every signal live on, and begin no life but those of posted signals and of
new ones. -/
structure Advances (b : Bus ω) (start : SignalRecords) (past : List Call) (posted : List SignalId)
    (calls : List Call) : Prop where
  alive : b.Alive start (past ++ calls)
  untouched : ∀ {id}, id ∉ posted ++ newIds calls → start id = none → trail id past = [] → trail id calls = []

/-- Different ids, of which nothing has been heard. -/
structure Unknown (start : SignalRecords) (past : List Call) (ids : List SignalId) : Prop where
  distinct : ids.Nodup
  unheard : ∀ id ∈ ids, start id = none ∧ trail id past = []

variable {b : Bus ω} {start : SignalRecords} {past calls more : List Call} {posted others : List SignalId}
  {signal : Signal}

namespace Advances

theorem silent (alive : b.Alive start past) (quiet : ∀ id, trail id calls = []) :
    b.Advances start past posted calls := by
  refine ⟨?_, fun _ _ _ => quiet _⟩
  intro id
  rw [trail_append, quiet, List.append_nil]
  exact alive id

theorem mono (advances : b.Advances start past posted calls) (wider : ∀ id ∈ posted, id ∈ others) :
    b.Advances start past others calls := by
  refine ⟨advances.alive, ?_⟩
  intro id absent
  apply advances.untouched
  intro among
  rcases List.mem_append.mp among with member | member
  · exact absent (List.mem_append_left _ (wider id member))
  · exact absent (List.mem_append_right _ member)

theorem trans (first : b.Advances start past posted calls) (last : b.Advances start (past ++ calls) others more) :
    b.Advances start past (posted ++ others) (calls ++ more) := by
  constructor
  · rw [← List.append_assoc]
    exact last.alive
  · intro id absent unrecorded untouched
    simp only [newIds_append, List.mem_append, not_or] at absent
    have before : trail id calls = [] := first.untouched (by simp [absent]) unrecorded untouched
    have after : trail id more = [] :=
      last.untouched (by simp [absent]) unrecorded (by rw [trail_append, untouched, before]; rfl)
    rw [trail_append, before, after]
    rfl

theorem begun (alive : b.Alive start past) (unknown : Unknown start past (posted ++ newIds calls))
    (lives : ∀ id, b.Lives id none (trail id calls))
    (untouched : ∀ {id}, id ∉ posted ++ newIds calls → trail id calls = []) :
    b.Advances start past posted calls := by
  refine ⟨?_, fun absent _ _ => untouched absent⟩
  intro id
  by_cases among : id ∈ posted ++ newIds calls
  · obtain ⟨unrecorded, before⟩ := unknown.unheard id among
    rw [trail_append, before, unrecorded]
    exact lives id
  · rw [trail_append, untouched among, List.append_nil]
    exact alive id

end Advances

namespace Unknown

variable {ids : List SignalId}

theorem of_sublist (unknown : Unknown start past ids) (fewer : others.Sublist ids) :
    Unknown start past others :=
  ⟨unknown.distinct.sublist fewer, fun id member => unknown.unheard id (fewer.subset member)⟩

theorem of_perm (unknown : Unknown start past ids) (same : ids.Perm others) : Unknown start past others :=
  ⟨same.nodup_iff.mp unknown.distinct, fun id member => unknown.unheard id (same.mem_iff.mpr member)⟩

theorem after (unknown : Unknown start past (posted ++ newIds calls ++ ids))
    (advances : b.Advances start past posted calls) : Unknown start (past ++ calls) ids := by
  obtain ⟨-, distinct, apart⟩ := List.nodup_append.mp unknown.distinct
  refine ⟨distinct, ?_⟩
  intro id member
  obtain ⟨unrecorded, before⟩ := unknown.unheard id (List.mem_append_right _ member)
  have absent : id ∉ posted ++ newIds calls := fun among => apart id among id member rfl
  rw [trail_append, before, advances.untouched absent unrecorded before]
  exact ⟨unrecorded, rfl⟩

end Unknown

theorem Accepts.advances {signals : List Signal} {now : UInt64} {result : Except Halt Outcome}
    (accepts : b.Accepts signals now signal calls result) (alive : b.Alive start past)
    (unknown : Unknown start past (signal.id :: newIds calls)) :
    b.Advances start past [signal.id] calls :=
  .begun alive unknown (accepts.lives unknown.distinct) accepts.untouched

theorem Each.advances {signals together : List Signal} {result : Except Halt (List Outcome)}
    (each : Each (fun signal calls result => ∃ now, b.Accepts together now signal calls result) signals calls result)
    (alive : b.Alive start past) (unknown : Unknown start past (signals.map (·.id) ++ newIds calls)) :
    b.Advances start past (signals.map (·.id)) calls := by
  induction each generalizing past with
  | nil => exact .silent alive fun _ => rfl
  | @broken signal rest calls halt here =>
      obtain ⟨now, accepts⟩ := here
      have own : (signal.id :: newIds calls).Sublist ((signal :: rest).map (·.id) ++ newIds calls) :=
        (List.sublist_append_right _ _).cons_cons _
      exact (accepts.advances alive (unknown.of_sublist own)).mono (by simp)
  | @next signal rest calls more outcome result here later ih =>
      obtain ⟨now, accepts⟩ := here
      have shuffled : ((signal :: rest).map (·.id) ++ newIds (calls ++ more)).Perm
          ([signal.id] ++ newIds calls ++ (rest.map (·.id) ++ newIds more)) := by
        rw [newIds_append]
        exact (List.perm_append_comm_assoc _ _ _).cons _
      have apart := unknown.of_perm shuffled
      have first := accepts.advances alive (apart.of_sublist (List.sublist_append_left _ _))
      exact first.trans (ih first.alive (apart.after first))

/-- A scheduled signal that is claimed lives on. -/
theorem CarriesOut.advances {result : Except Halt Outcome} (carried : b.CarriesOut signal calls result)
    (alive : b.Alive start past)
    (scheduled : standing ((start signal.id).map (·.status)) (trail signal.id past) = some .scheduled)
    (unknown : Unknown start past (newIds calls)) :
    b.Advances start past [] (.claim signal.id (.ok true) :: calls) := by
  have own : signal.id ∉ newIds calls := by
    intro among
    obtain ⟨unrecorded, before⟩ := unknown.unheard _ among
    rw [unrecorded, before] at scheduled
    cases scheduled
  obtain ⟨handling, lives⟩ := carried.lives (List.nodup_cons.mpr ⟨own, unknown.distinct⟩)
  constructor
  · intro id
    by_cases same : signal.id = id
    · subst same
      obtain ⟨other, -, life⟩ := alive signal.id
      rw [trail_append, trail_claimed]
      exact ⟨signal, rfl, life.claim scheduled handling⟩
    · rw [trail_append, trail_claimed_ne same]
      by_cases among : id ∈ newIds calls
      · obtain ⟨unrecorded, before⟩ := unknown.unheard id among
        rw [before, unrecorded]
        exact lives id same
      · rw [carried.untouched (by simp [Ne.symm same, among]), List.append_nil]
        exact alive id
  · intro id absent unrecorded before
    have other : signal.id ≠ id := by
      rintro rfl
      rw [unrecorded, before] at scheduled
      cases scheduled
    have undrawn : id ∉ newIds calls := absent
    rw [trail_claimed_ne other]
    exact carried.untouched (by simp [Ne.symm other, undrawn])

theorem Sweeps.advances {now : UInt64} {signals : List Signal} {report : SweepReport}
    {result : Except Halt SweepReport} (swept : b.Sweeps now signals report calls result)
    (alive : b.Alive start past) (served : (start.after past).Serve calls)
    (unknown : Unknown start past (newIds calls)) : b.Advances start past [] calls := by
  -- a claim fits the records after all that was called before it, so the past grows along the list
  induction swept generalizing past with
  | done => exact .silent alive fun _ => rfl
  | pending delayed later ih => exact ih alive served unknown
  | unclaimed error => exact .silent alive fun _ => rfl
  | @taken signal rest report calls result later ih =>
      have first : b.Advances start past [] [.claim signal.id (.ok false)] := .silent alive fun _ => rfl
      have remaining : Unknown start past ([] ++ newIds [.claim signal.id (.ok false)] ++ newIds calls) := unknown
      refine first.trans (ih first.alive ?_ (remaining.after first))
      rw [SignalRecords.after_append]
      exact served.2
  | @broken signal rest report calls halt due carried =>
      exact carried.advances alive ((SignalRecords.after_status ..).symm.trans served.1) unknown
  | @delivered signal rest report calls more outcome result due carried later ih =>
      have drawn : newIds (.claim signal.id (.ok true) :: (calls ++ more)) =
          [] ++ newIds (.claim signal.id (.ok true) :: calls) ++ newIds more := newIds_append _ _
      have parted : Unknown start past ([] ++ newIds (.claim signal.id (.ok true) :: calls) ++ newIds more) :=
        drawn ▸ unknown
      have first := carried.advances alive ((SignalRecords.after_status ..).symm.trans served.1)
        (parted.of_sublist (List.sublist_append_left _ _))
      refine first.trans (ih first.alive ?_ (parted.after first))
      rw [SignalRecords.after_append]
      exact (SignalRecords.serve_append.mp (show SignalRecords.Serve _
        ((.claim signal.id (.ok true) :: calls) ++ more) from served)).2

theorem SweepsDue.advances {now : UInt64} {result : Except Halt SweepReport}
    (due : b.SweepsDue now calls result) (alive : b.Alive start past)
    (served : (start.after past).Serve calls) (unknown : Unknown start past (newIds calls)) :
    b.Advances start past [] calls := by
  cases due with
  | unlisted error => exact .silent alive fun _ => rfl
  | @listed signals calls _ swept =>
      have first : b.Advances start past [] [.scheduled (.ok signals)] := .silent alive fun _ => rfl
      have remaining : Unknown start past ([] ++ newIds [.scheduled (.ok signals)] ++ newIds calls) := unknown
      refine first.trans (swept.advances first.alive ?_ (remaining.after first))
      rw [SignalRecords.after_append]
      exact served.2

section Serving

variable {view : b.store.View} {w : World ω} {request : BusRequest ω} {requests : List (BusRequest ω)}

theorem serve_advances (apart : b.Apart view) (discreet : request.Apart view) (w : World ω) :
    ∃ calls, (∀ earlier, b.recorded.serve (w.recorded earlier) request.recorded =
        (b.serve w request).recorded (earlier ++ calls)) ∧
      b.Progress view w calls (b.serve w request) ∧
      ∀ {start past}, b.Alive start past → (start.after past).Serve calls →
        Unknown start past (request.posted ++ newIds calls) →
        b.Advances start past request.posted calls := by
  cases request with
  | post fuel observer signal =>
      obtain ⟨calls, accepts, steps, same⟩ := post_traced (b := b) fuel observer signal w
      exact ⟨calls, fun earlier => congrArg Prod.snd (same earlier), steps.progress apart discreet,
        fun alive _ unknown => accepts.advances alive unknown⟩
  | postAll fuel observer signals =>
      obtain ⟨calls, each, steps, same⟩ := postAll_traced (b := b) fuel observer signals w
      exact ⟨calls, fun earlier => congrArg Prod.snd (same earlier), steps.progress apart discreet,
        fun alive _ unknown => each.advances alive unknown⟩
  | sweep fuel =>
      obtain ⟨calls, due, steps, same⟩ := sweep_traced (b := b) fuel .discarding w
      exact ⟨calls, fun earlier => congrArg Prod.snd (same earlier),
        steps.progress apart fun _ _ => ⟨rfl, .refl _⟩,
        fun alive served unknown => due.advances alive served unknown⟩

theorem serveAll_draws (apart : b.Apart view) (discreet : ∀ request ∈ requests, request.Apart view)
    (w : World ω) : w.supply.Draws [] (b.serveAll requests w).supply := by
  induction requests generalizing w with
  | nil => exact .refl _
  | cons request rest ih =>
      obtain ⟨here, others⟩ := List.forall_mem_cons.mp discreet
      obtain ⟨calls, -, progress, -⟩ := serve_advances apart here w
      exact progress.draws.none.trans (ih others (b.serve w request))

theorem Unknown.with_drawn {ids : List SignalId} {later : Supply} {stop : Nat}
    (unknown : Unknown start past posted) (draws : w.supply.Draws ids later) (within : later.idsDrawn ≤ stop)
    (fresh : w.supply.Fresh stop fun id => (start id).isSome ∨ trail id past ≠ [] ∨ id ∈ posted) :
    Unknown start past (ids ++ posted) := by
  have unused : ∀ id ∈ ids, start id = none ∧ trail id past = [] ∧ id ∉ posted := by
    intro id member
    have new := draws.not_used within fresh member
    simpa [not_or] using new
  constructor
  · rw [List.nodup_append]
    refine ⟨draws.nodup within fresh, unknown.distinct, ?_⟩
    rintro id drawn _ known rfl
    exact (unused id drawn).2.2 known
  · intro id member
    rcases List.mem_append.mp member with drawn | known
    · exact ⟨(unused id drawn).1, (unused id drawn).2.1⟩
    · exact unknown.unheard id known

theorem serveAll_alive (apart : b.Apart view) (discreet : ∀ request ∈ requests, request.Apart view)
    (alive : b.Alive start past) (records : view.record w.outside = start.after past)
    (unknown : Unknown start past (requests.flatMap BusRequest.posted))
    (fresh : w.supply.Fresh (b.serveAll requests w).supply.idsDrawn fun id =>
      (start id).isSome ∨ trail id past ≠ [] ∨ id ∈ requests.flatMap BusRequest.posted) :
    ∃ calls, (∀ earlier, b.recorded.serveAll (requests.map .recorded) (w.recorded earlier) =
        (b.serveAll requests w).recorded (earlier ++ calls)) ∧
      view.record (b.serveAll requests w).outside = start.after (past ++ calls) ∧
      b.Alive start (past ++ calls) := by
  induction requests generalizing w past with
  | nil =>
      refine ⟨[], fun earlier => ?_, ?_, ?_⟩
      · rw [List.append_nil]
        rfl
      · rw [List.append_nil]
        exact records
      · rw [List.append_nil]
        exact alive
  | cons request rest ih =>
      obtain ⟨here, others⟩ := List.forall_mem_cons.mp discreet
      obtain ⟨calls, same, progress, advances⟩ := serve_advances apart here w
      have within := (serveAll_draws apart others (b.serve w request)).le
      have drawn := unknown.with_drawn progress.draws within fresh
      have arranged : Unknown start past (request.posted ++ newIds calls ++ rest.flatMap BusRequest.posted) := by
        refine drawn.of_perm ?_
        rw [List.flatMap_cons, List.append_assoc]
        exact List.perm_append_comm_assoc _ _ _
      have advanced := advances alive (records ▸ progress.served)
        (arranged.of_sublist (List.sublist_append_left _ _))
      have recorded : view.record (b.serve w request).outside = start.after (past ++ calls) := by
        rw [progress.records, records, SignalRecords.after_append]
      -- what is drawn later is also apart from what this request has drawn
      have later : (b.serve w request).supply.Fresh (b.serveAll rest (b.serve w request)).supply.idsDrawn
          fun id => (start id).isSome ∨ trail id (past ++ calls) ≠ [] ∨ id ∈ rest.flatMap BusRequest.posted := by
        refine (fresh.after progress.draws).mono ?_
        intro id used
        by_contra unused
        simp only [List.flatMap_cons, List.mem_append, not_or, Option.not_isSome_iff_eq_none, not_not] at unused
        obtain ⟨⟨unrecorded, before, unposted, remaining⟩, undrawn⟩ := unused
        have silent := advanced.untouched (by simp [unposted, undrawn]) unrecorded before
        simp [unrecorded, before, silent, remaining] at used
      obtain ⟨more, sameMore, recordsMore, aliveMore⟩ :=
        ih others advanced.alive recorded (arranged.after advanced) later
      refine ⟨calls ++ more, fun earlier => ?_, ?_, ?_⟩
      · have whole := sameMore (earlier ++ calls)
        rw [← same earlier, List.append_assoc] at whole
        exact whole
      · rw [← List.append_assoc]
        exact recordsMore
      · rw [← List.append_assoc]
        exact aliveMore

/-- Over any requests, with posted ids that are used once and generated ids that are new, the
status of every signal takes only the steps that it may, and no signal is handed out twice. -/
theorem status_steps (apart : b.Apart view) (discreet : ∀ request ∈ requests, request.Apart view)
    (w : World ω) (distinct : (requests.flatMap BusRequest.posted).Nodup)
    (unrecorded : ∀ id ∈ requests.flatMap BusRequest.posted, view.record w.outside id = none)
    (fresh : w.supply.Fresh (b.serveAll requests w).supply.idsDrawn fun id =>
      (view.record w.outside id).isSome ∨ id ∈ requests.flatMap BusRequest.posted) :
    ∃ calls,
      b.recorded.serveAll (requests.map .recorded) (w.recorded []) = (b.serveAll requests w).recorded calls ∧
      view.record (b.serveAll requests w).outside = (view.record w.outside).after calls ∧
      ∀ id,
        ((view.record w.outside).statuses calls id).IsChain
          (fun before after => before = after ∨ SignalStatus.Step before after) ∧
        (∀ before settled after,
          (view.record w.outside).statuses calls id = before ++ some settled :: after →
          settled = .ok ∨ settled = .rejected ∨ settled = .error → ∀ later ∈ after, later = some settled) ∧
        (∀ before left after, (view.record w.outside).statuses calls id = before ++ some left :: after →
          left ≠ .scheduled → some .scheduled ∉ after) ∧
        ∃ signal, signal.id = id ∧
          (deliveries calls).filter (fun delivery => delivery.2.id = id) <+: b.recipients signal := by
  have begun : b.Alive (view.record w.outside) [] := fun id => .idle b id _
  have unknown : Unknown (view.record w.outside) [] (requests.flatMap BusRequest.posted) :=
    ⟨distinct, fun id member => ⟨unrecorded id member, rfl⟩⟩
  obtain ⟨calls, same, records, alive⟩ := serveAll_alive apart discreet begun rfl unknown
    (fresh.mono fun id used => by simpa [trail] using used)
  refine ⟨calls, same [], records, ?_⟩
  intro id
  obtain ⟨signal, named, life⟩ := alive id
  have chain := SignalRecords.statuses_chain life.lawful
  refine ⟨chain, ?_, ?_, signal, named, ?_⟩
  · intro before settled after split done
    exact SignalStatus.final done (split ▸ chain)
  · intro before left after split other
    exact SignalStatus.unscheduled other (split ▸ chain)
  · rw [deliveries_filter]
    exact life.deliveries_prefix

end Serving

open Sample Office in
/-- The ledger fails when the scheduled deposit is to be settled: the second sweep breaks off, and
the third leaves the deposit alone. -/
theorem status_steps_office :
    let requests := [
      .post 9 .discarding (Office.posted 1 0 (Branch.opening "a")), .postAll 9 .discarding [later],
      .sweep 9, .sweep 9, .sweep 9]
    let start := opened (.after 8 1 (.io "ledger"))
    (Office.view.record (bus.serveAll requests start).outside later.id).map (·.status) = some .received ∧
      ∃ calls,
        bus.recorded.serveAll (requests.map .recorded) (start.recorded []) =
          (bus.serveAll requests start).recorded calls ∧
        ∀ id, ((Office.view.record start.outside).statuses calls id).IsChain
          fun before after => before = after ∨ SignalStatus.Step before after := by
  intro requests start
  have drawn : (bus.serveAll requests start).supply.idsDrawn = 2 := by decide +kernel
  have discreet : ∀ request ∈ requests, request.Apart Office.view := by
    intro request member
    simp only [requests, List.mem_cons, List.not_mem_nil, or_false] at member
    rcases member with rfl | rfl | rfl | rfl | rfl
    · exact discarding_apart
    · exact discarding_apart
    all_goals trivial
  have new : ∀ n < 2, start.supply.ids n ∉ requests.flatMap BusRequest.posted := by decide +kernel
  have different : ∀ m < 2, ∀ n < 2, start.supply.ids m = start.supply.ids n → m = n := by decide +kernel
  have fresh : start.supply.Fresh (bus.serveAll requests start).supply.idsDrawn fun id =>
      (Office.view.record start.outside id).isSome ∨ id ∈ requests.flatMap BusRequest.posted := by
    rw [drawn]
    constructor
    · intro n _ below used
      rcases used with recorded | posted
      · cases recorded
      · exact new n below posted
    · intro m n _ belowM _ belowN same
      exact different m belowM n belowN same
  obtain ⟨calls, same, -, lives⟩ :=
    status_steps bus_apart discreet start (by decide +kernel) (fun _ _ => rfl) fresh
  exact ⟨by decide +kernel, calls, same, fun id => (lives id).1⟩

end Bus

end Switchboard
