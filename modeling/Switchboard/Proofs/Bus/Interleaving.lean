import Mathlib.Algebra.BigOperators.Fin
import Mathlib.Algebra.Order.BigOperators.Group.Finset
import Mathlib.Data.List.FinRange
import Switchboard.Proofs.Bus.Claiming
import Switchboard.Proofs.Sample.Office

namespace Switchboard

/-! Posts and sweeps at the same time. Their calls come to one ledger in any order; each of them
goes on by the answers that it gets. -/

variable {ω : Type} {n : Nat}

/-- Somebody at work with the store of signals. -/
inductive Party where
  /-- A sweep, and what it has reported if it has come to its end. -/
  | sweep (report : Option SweepReport)
  | post (signal : Signal)
  | postAll (signals : List Signal)

namespace Party

def isSweep : Party → Bool
  | .sweep _ => true
  | _ => false

def posted : Party → List SignalId
  | .sweep _ => []
  | .post signal => [signal.id]
  | .postAll signals => signals.map (·.id)

def delivered : Party → Nat
  | .sweep (some report) => report.delivered
  | _ => 0

/-- These are the calls of such a party up to some point. The bus it works with may be any, and so
may be the answers: they only have to be those that the bus got. -/
def Makes : Party → List Call → Prop
  | .sweep report, calls => ∃ (ω : Type) (b : Bus ω) (fuel : Nat) (w : World ω) (rest : List Call),
      (b.recorded.sweep fuel (w.recorded [])).2.outside.calls = calls ++ rest ∧
      ∀ final, report = some final → rest = [] ∧ (b.recorded.sweep fuel (w.recorded [])).1 = .ok final
  | .post signal, calls =>
      ∃ (ω : Type) (b : Bus ω) (fuel : Nat) (observer : Observer ω) (w : World ω) (rest : List Call),
        (b.recorded.post fuel observer.recorded signal (w.recorded [])).2.outside.calls = calls ++ rest
  | .postAll signals, calls =>
      ∃ (ω : Type) (b : Bus ω) (fuel : Nat) (observer : Observer ω) (w : World ω) (rest : List Call),
        (b.recorded.postAll fuel observer.recorded signals (w.recorded [])).2.outside.calls = calls ++ rest

variable {party : Party} {calls : List Call} {report : Option SweepReport}

theorem Makes.swept (makes : (sweep report).Makes calls) :
    ∃ (ω : Type) (b : Bus ω) (now : UInt64) (rest : List Call) (result : Except Halt SweepReport),
      b.SweepsDue now (calls ++ rest) result ∧ ∀ final, report = some final → rest = [] ∧ result = .ok final := by
  obtain ⟨ω, b, fuel, w, rest, made, finished⟩ := makes
  obtain ⟨whole, due, -, same⟩ := Bus.sweep_traced (b := b) fuel .discarding w
  rw [same []] at made finished
  obtain rfl : whole = calls ++ rest := made
  exact ⟨ω, b, _, rest, _, due, finished⟩

/-- Only what a party posts is scheduled by it. -/
theorem Makes.scheduledIds (makes : party.Makes calls) : (scheduledIds calls).Sublist party.posted := by
  have part : ∀ {rest ids}, (Switchboard.scheduledIds (calls ++ rest)).Sublist ids →
      (Switchboard.scheduledIds calls).Sublist ids := by
    intro rest ids whole
    rw [scheduledIds_append] at whole
    exact (List.sublist_append_left _ _).trans whole
  cases party with
  | sweep report =>
      obtain ⟨ω, b, now, rest, result, due, -⟩ := makes.swept
      apply part
      rw [due.scheduledIds]
      exact List.nil_sublist _
  | post signal =>
      obtain ⟨ω, b, fuel, observer, w, rest, made⟩ := makes
      obtain ⟨whole, accepted, -, same⟩ := Bus.post_traced (b := b) fuel observer signal w
      rw [same []] at made
      obtain rfl : whole = calls ++ rest := made
      exact part accepted.scheduledIds
  | postAll signals =>
      obtain ⟨ω, b, fuel, observer, w, rest, made⟩ := makes
      obtain ⟨whole, each, -, same⟩ := Bus.postAll_traced (b := b) fuel observer signals w
      rw [same []] at made
      obtain rfl : whole = calls ++ rest := made
      exact part each.scheduledIds

theorem Makes.delivered_le (makes : party.Makes calls) : party.delivered ≤ (claimedIds calls).length := by
  cases party with
  | sweep report =>
      cases report with
      | none => exact Nat.zero_le _
      | some report =>
          obtain ⟨ω, b, now, rest, result, due, finished⟩ := makes.swept
          obtain ⟨rfl, rfl⟩ := finished report rfl
          rw [List.append_nil] at due
          exact Nat.le_of_eq due.delivered_eq
  | post signal => exact Nat.zero_le _
  | postAll signals => exact Nat.zero_le _

theorem Makes.warranted (makes : (sweep report).Makes calls) : Warranted [] calls := by
  obtain ⟨ω, b, now, rest, result, due, -⟩ := makes.swept
  exact (warranted_append.mp due.warranted).1

end Party

def share (i : Fin n) (history : List (Fin n × Call)) : List Call :=
  (history.filter fun step => step.1 = i).map Prod.snd

/-- Parties at work at the same time, after some past. Each signal is posted once. -/
structure Interleaved (parties : Fin n → Party) (past : List Call) (history : List (Fin n × Call)) : Prop where
  made : ∀ i, (parties i).Makes (share i history)
  distinct : ((List.finRange n).flatMap fun i => (parties i).posted).Nodup
  new : ∀ i, ∀ id ∈ (parties i).posted, id ∉ scheduledIds past

section Shares

theorem sum_countP_share (p : Call → Bool) (history : List (Fin n × Call)) :
    ∑ i, (share i history).countP p = (history.map Prod.snd).countP p := by
  induction history with
  | nil => simp [share]
  | cons step rest ih =>
      obtain ⟨i, call⟩ := step
      have split : ∀ j, (share j ((i, call) :: rest)).countP p =
          (share j rest).countP p + if i = j then [call].countP p else 0 := by
        intro j
        by_cases same : i = j <;> simp [share, same, List.countP_cons]
      simp only [split, Finset.sum_add_distrib, ih, Finset.sum_ite_eq, Finset.mem_univ, if_true]
      simp [List.countP_cons]

theorem sum_count_share (f : Call → Option SignalId) (history : List (Fin n × Call)) (id : SignalId) :
    ∑ i, ((share i history).filterMap f).count id = ((history.map Prod.snd).filterMap f).count id := by
  simp only [List.count_filterMap]
  exact sum_countP_share _ history

theorem sum_length_share (f : Call → Option SignalId) (history : List (Fin n × Call)) :
    ∑ i, ((share i history).filterMap f).length = ((history.map Prod.snd).filterMap f).length := by
  simp only [List.length_filterMap_eq_countP]
  exact sum_countP_share _ history

theorem mem_share {i : Fin n} {call : Call} {history : List (Fin n × Call)} (member : (i, call) ∈ history) :
    call ∈ share i history :=
  List.mem_map.mpr ⟨(i, call), List.mem_filter.mpr ⟨member, decide_eq_true rfl⟩, rfl⟩

end Shares

namespace Interleaved

variable {parties : Fin n → Party} {past : List Call} {history : List (Fin n × Call)}

/-- No two parties schedule a signal with the same id, and none does so twice. -/
theorem scheduled_once (interleaved : Interleaved parties past history) (id : SignalId) :
    (scheduledIds (history.map Prod.snd)).count id ≤ 1 := by
  calc (scheduledIds (history.map Prod.snd)).count id
    _ = ∑ i, (scheduledIds (share i history)).count id := (sum_count_share ..).symm
    _ ≤ ∑ i, (parties i).posted.count id :=
        Finset.sum_le_sum fun i _ => (interleaved.made i).scheduledIds.count_le id
    _ = ((List.finRange n).flatMap fun i => (parties i).posted).count id := by
        rw [Fin.sum_univ_def, List.count_flatMap]
        rfl
    _ ≤ 1 := List.nodup_iff_count_le_one.mp interleaved.distinct id

theorem scheduled_new (interleaved : Interleaved parties past history) {id : SignalId}
    (scheduled : id ∈ scheduledIds (history.map Prod.snd)) : id ∉ scheduledIds past := by
  obtain ⟨call, member, saved⟩ := List.mem_filterMap.mp scheduled
  obtain ⟨⟨i, call⟩, among, rfl⟩ := List.mem_map.mp member
  apply interleaved.new i
  exact (interleaved.made i).scheduledIds.subset (List.mem_filterMap.mpr ⟨call, mem_share among, saved⟩)

variable {records : SignalRecords}

/-- What is claimed was scheduled once, and is claimed once. -/
theorem claimed_once (interleaved : Interleaved parties past history) (empty : ∀ id, records id = none)
    (before : records.Serve past) (during : (records.after past).Serve (history.map Prod.snd)) (id : SignalId) :
    (claimedIds (history.map Prod.snd)).count id ≤ 1 ∧
      (id ∈ claimedIds (history.map Prod.snd) → id ∈ scheduledIds (past ++ history.map Prod.snd)) := by
  have waited : waiting (records.after past id) ≤ (scheduledIds past).count id := by
    have nothing : waiting (records id) = 0 := by
      rw [empty id]
      rfl
    have counted := count_claimedIds before id
    omega
  have claimed := count_claimedIds during id
  have one := waiting_le (records.after past id)
  have once := interleaved.scheduled_once id
  rw [scheduledIds_append, List.mem_append]
  -- the signal was scheduled either in the past or by one of the parties, and then by a single post
  by_cases scheduled : id ∈ scheduledIds (history.map Prod.snd)
  · have unknown : (scheduledIds past).count id = 0 :=
      List.count_eq_zero_of_not_mem (interleaved.scheduled_new scheduled)
    exact ⟨by omega, fun _ => .inr scheduled⟩
  · have none : (scheduledIds (history.map Prod.snd)).count id = 0 := List.count_eq_zero_of_not_mem scheduled
    refine ⟨by omega, ?_⟩
    intro among
    have some := List.count_pos_iff.mpr among
    exact .inl (List.count_pos_iff.mp (by omega))

/-- A sweep delivers nothing but what it has claimed and what it publishes itself. -/
theorem delivered_claimed (interleaved : Interleaved parties past history) {i : Fin n}
    (sweeps : (parties i).isSweep) {delivery : String × Signal} (delivered : delivery ∈ deliveries (share i history))
    (unpublished : delivery.2.id ∉ receivedIds (share i history)) : delivery.2.id ∈ claimedIds (share i history) := by
  have made := interleaved.made i
  cases party : parties i with
  | sweep report =>
      rw [party] at made
      exact (mem_warrantedIds (made.warranted.mem delivered)).resolve_right unpublished
  | post signal =>
      rw [party] at sweeps
      cases sweeps
  | postAll signals =>
      rw [party] at sweeps
      cases sweeps

theorem claimed_apart {i j : Fin n} {id : SignalId} (once : (claimedIds (history.map Prod.snd)).count id ≤ 1)
    (first : id ∈ claimedIds (share i history)) (second : id ∈ claimedIds (share j history)) : i = j := by
  by_contra different
  have both : ∑ k ∈ {i, j}, (claimedIds (share k history)).count id ≤
      ∑ k, (claimedIds (share k history)).count id :=
    Finset.sum_le_sum_of_subset (Finset.subset_univ _)
  have all : ∑ k, (claimedIds (share k history)).count id = (claimedIds (history.map Prod.snd)).count id :=
    sum_count_share ..
  rw [Finset.sum_pair different, all] at both
  have here := List.count_pos_iff.mpr first
  have there := List.count_pos_iff.mpr second
  omega

end Interleaved

/-- A ledger grants a claim if and only if the last save or claim of the id has scheduled it. So
whatever the order in which the calls of posts and sweeps come to it, each scheduled signal is
claimed and delivered by one sweep at most, and all sweeps together report no more deliveries than
there are signals that were ever scheduled. -/
theorem claimed_by_one {place : Place ω SignalLedger} {start : ω} (new : place.get start = .empty) :
    (∀ before id answer after,
      (SignalLedger.store place).Answers start (before ++ .claim id answer :: after) →
      ∃ granted, answer = .ok granted ∧ (granted = true ↔ lastStored id before = some (.saved .scheduled))) ∧
    ∀ {n : Nat} {parties : Fin n → Party} {past : List Call} {history : List (Fin n × Call)},
      Interleaved parties past history →
      (SignalLedger.store place).Answers start (past ++ history.map Prod.snd) →
      (∀ id, (claimedIds (history.map Prod.snd)).count id ≤ 1) ∧
      (∀ i j, (parties i).isSweep → (parties j).isSweep →
        ∀ first ∈ deliveries (share i history), ∀ second ∈ deliveries (share j history),
          first.2.id = second.2.id → first.2.id ∉ receivedIds (share i history) →
          second.2.id ∉ receivedIds (share j history) → i = j) ∧
      ∑ i, (parties i).delivered ≤ (scheduledIds (past ++ history.map Prod.snd)).toFinset.card := by
  refine ⟨fun before id answer after answers => SignalLedger.claim_granted new answers, ?_⟩
  intro n parties past history interleaved answers
  obtain ⟨middle, records, before, later⟩ := (SignalLedger.view place).answered answers
  rw [← List.append_nil (history.map Prod.snd)] at later
  obtain ⟨-, -, during, -⟩ := (SignalLedger.view place).answered later
  rw [records] at during
  have once := interleaved.claimed_once (SignalLedger.view_new new) before during
  refine ⟨fun id => (once id).1, ?_, ?_⟩
  · intro i j sweeps others first delivered second received same unpublished unreceived
    apply Interleaved.claimed_apart (once first.2.id).1 (interleaved.delivered_claimed sweeps delivered unpublished)
    rw [same]
    exact interleaved.delivered_claimed others received unreceived
  · have distinct := List.nodup_iff_count_le_one.mpr fun id => (once id).1
    calc ∑ i, (parties i).delivered
      _ ≤ ∑ i, (claimedIds (share i history)).length :=
          Finset.sum_le_sum fun i _ => (interleaved.made i).delivered_le
      _ = (claimedIds (history.map Prod.snd)).length := sum_length_share ..
      _ = (claimedIds (history.map Prod.snd)).toFinset.card := (List.toFinset_card_of_nodup distinct).symm
      _ ≤ (scheduledIds (past ++ history.map Prod.snd)).toFinset.card := by
          apply Finset.card_le_card
          intro id among
          exact List.mem_toFinset.mpr ((once id).2 (List.mem_toFinset.mp among))

open Sample Office in
/-- A deposit is scheduled, and two sweeps have listed it before one of them claims it. The other
sweep comes too late. -/
theorem claimed_by_one_office :
    let posting := (counter.recorded.post 9 (Observer.recorded .discarding) later
      ((opened .none).recorded [])).2.outside.calls
    let first := counter.recorded.sweep 9 (due.recorded [])
    let second := forestalled.recorded.sweep 9 (due.recorded [])
    let parties : Fin 3 → Party := ![.post later, .sweep (some ⟨1, 0, 0⟩), .sweep (some ⟨0, 0, 1⟩)]
    let history : List (Fin 3 × Call) :=
      posting.map (0, ·) ++ (first.2.outside.calls.take 1).map (1, ·) ++
        (second.2.outside.calls.take 1).map (2, ·) ++ (first.2.outside.calls.drop 1).map (1, ·) ++
        (second.2.outside.calls.drop 1).map (2, ·)
    let calls := history.map Prod.snd
    first.1 = .ok ⟨1, 0, 0⟩ ∧ second.1 = .ok ⟨0, 0, 1⟩ ∧ Interleaved parties [] history ∧
      (SignalLedger.store ledger).Answers (opened .none).outside calls ∧
      calls[4]? = some (.claim later.id (.ok true)) ∧
      lastStored later.id (calls.take 4) = some (.saved .scheduled) ∧
      (claimedIds calls).count later.id ≤ 1 ∧
      ∑ i, (parties i).delivered ≤ (scheduledIds calls).toFinset.card := by
  intro posting first second parties history calls
  have firstReport : first.1 = .ok ⟨1, 0, 0⟩ := by decide +kernel
  have secondReport : second.1 = .ok ⟨0, 0, 1⟩ := by decide +kernel
  have interleaved : Interleaved parties [] history := by
    constructor
    · intro i
      match i with
      | 0 => exact ⟨Desk, counter, 9, .discarding, opened .none, [], by decide +kernel⟩
      | 1 =>
          refine ⟨Desk, counter, 9, due, [], by decide +kernel, ?_⟩
          rintro final ⟨⟩
          exact ⟨rfl, firstReport⟩
      | 2 =>
          refine ⟨Desk, forestalled, 9, due, [], by decide +kernel, ?_⟩
          rintro final ⟨⟩
          exact ⟨rfl, secondReport⟩
    · decide
    · simp [scheduledIds]
  have answers : (SignalLedger.store ledger).Answers (opened .none).outside calls := by decide +kernel
  have claim : calls = calls.take 4 ++ .claim later.id (.ok true) :: calls.drop 5 := by decide +kernel
  obtain ⟨granted, all⟩ := @claimed_by_one Desk ledger (opened .none).outside rfl
  obtain ⟨yes, same, last⟩ := granted (calls.take 4) later.id (.ok true) (calls.drop 5) (claim ▸ answers)
  obtain ⟨once, -, bound⟩ := all interleaved answers
  cases same
  exact ⟨firstReport, secondReport, interleaved, answers, by decide +kernel, last.mp rfl, once later.id, bound⟩

end Switchboard
