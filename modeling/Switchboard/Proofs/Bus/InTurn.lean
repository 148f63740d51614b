import Switchboard.Proofs.Bus.Acknowledging
import Switchboard.Proofs.Bus.LevelOrder
import Switchboard.Proofs.Sample.Booth

namespace Switchboard

/-! Signals that are posted together come to what they come to when they are posted one after another. -/

variable {ω α β : Type}

namespace Run

/-- The step is taken with one item after another, each time in the world that the one before has left. -/
inductive InTurn (step : α → Run ω β) : List α → World ω → List β → World ω → Prop where
  | done (w : World ω) : InTurn step [] w [] w
  | next {item : α} {rest : List α} {w middle after : World ω} {value : β} {values : List β}
      (first : step item w = (.ok value, middle)) (later : InTurn step rest middle values after) :
      InTurn step (item :: rest) w (value :: values) after

variable {step other : α → Run ω β} {items : List α} {w after : World ω} {values : List β} {halt : Halt}

theorem InTurn.mapM (taken : InTurn step items w values after) : items.mapM step w = (.ok values, after) := by
  induction taken with
  | done w => rfl
  | next first later ih => rw [List.mapM_cons, bind_ok first, bind_ok ih]; rfl

theorem mapM_ok_iff : items.mapM step w = (.ok values, after) ↔ InTurn step items w values after :=
  ⟨mapM_along (InTurn step) .done .next, InTurn.mapM⟩

theorem mapM_congr (same : ∀ item ∈ items, step item = other item) : items.mapM step = items.mapM other := by
  induction items with
  | nil => rfl
  | cons item rest ih =>
      obtain ⟨here, others⟩ := List.forall_mem_cons.mp same
      rw [List.mapM_cons, List.mapM_cons, here, ih others]

theorem mapM_error_iff : items.mapM step w = (.error halt, after) ↔
    ∃ before item later values middle, items = before ++ item :: later ∧
      InTurn step before w values middle ∧ step item middle = (.error halt, after) := by
  constructor
  · intro broken
    induction items generalizing w with
    | nil => cases broken
    | cons item rest ih =>
        rw [List.mapM_cons] at broken
        rcases first : step item w with ⟨failed | value, middle⟩
        · rw [bind_error first] at broken
          cases broken
          exact ⟨[], item, rest, [], w, rfl, .done w, first⟩
        · rw [bind_ok first] at broken
          rcases others : rest.mapM step middle with ⟨failed | values, last⟩
          · rw [bind_error others] at broken
            cases broken
            obtain ⟨before, stopped, later, values, reached, rfl, taken, halted⟩ := ih others
            exact ⟨item :: before, stopped, later, value :: values, reached, rfl, .next first taken, halted⟩
          · rw [bind_ok others] at broken
            cases broken
  · rintro ⟨before, item, later, values, middle, rfl, taken, halted⟩
    induction taken with
    | done w => rw [List.nil_append, List.mapM_cons, bind_error halted]
    | next first later ih => rw [List.cons_append, List.mapM_cons, bind_ok first, bind_error (ih halted)]

end Run

theorem Monitor.observer_congr {m n : Monitor} {ack : Ack} (same : m.signals.find? ack.id = n.signals.find? ack.id)
    (next : Observer ω) (post : Signal → StateM ω Unit) : m.observer next post ack = n.observer next post ack := by
  have event : m.systemEvent ack = n.systemEvent ack := by rw [systemEvent, systemEvent, same]
  rw [observer, observer, event]

namespace Bus

variable {b : Bus ω} {signal : Signal} {signals : List Signal}

theorem monitored_alone (b : Bus ω) (observer : Observer ω) (distinct : (signals.map (·.id)).Nodup)
    (member : signal ∈ signals) {ack : Ack} (concerns : ack.id = signal.id) :
    b.monitored observer signals ack = b.monitored observer [signal] ack := by
  unfold monitored
  cases b.system with
  | none => rfl
  | some post =>
      refine Monitor.observer_congr ?_ observer post
      have alone : ([signal].map (·.id)).Nodup := List.nodup_singleton _
      rw [concerns, Monitor.find?_of distinct member, Monitor.find?_of alone (List.mem_singleton_self signal)]

/-- All that an observer is told of while a signal is accepted concerns that signal. -/
theorem accept_congr (b : Bus ω) (fuel : Nat) {observer other : Observer ω}
    (agree : ∀ ack, ack.id = signal.id → observer ack = other ack) :
    b.accept fuel observer signal = b.accept fuel other signal := by
  have refused : ∀ error, observer (.error signal.id error) = other (.error signal.id error) :=
    fun error => agree _ rfl
  have accepted : observer (.ok signal.id) = other (.ok signal.id) := agree _ rfl
  simp only [accept, Run.notifying, refused, accepted]

theorem accept_alone (b : Bus ω) (fuel : Nat) (observer : Observer ω) (distinct : (signals.map (·.id)).Nodup)
    (member : signal ∈ signals) :
    b.accept fuel (b.monitored observer signals) signal = b.post fuel observer signal :=
  b.accept_congr fuel fun _ => b.monitored_alone observer distinct member

theorem postAll_eq_mapM (b : Bus ω) (fuel : Nat) (observer : Observer ω) (distinct : (signals.map (·.id)).Nodup) :
    b.postAll fuel observer signals = signals.mapM (b.post fuel observer) :=
  Run.mapM_congr fun _ member => b.accept_alone fuel observer distinct member

/-- Signals with different ids that are posted together give the outcomes, and leave the world, that
they give and leave when they are posted one after another. They break off if and only if one of these
posts does: with the same error, and in the world that this post has left. The bus may be a recorded one,
so it makes the same calls, and none for the signals behind that one. -/
theorem posted_in_turn (b : Bus ω) (fuel : Nat) (observer : Observer ω) (distinct : (signals.map (·.id)).Nodup)
    (w after : World ω) :
    (∀ outcomes, b.postAll fuel observer signals w = (.ok outcomes, after) ↔
      Run.InTurn (b.post fuel observer) signals w outcomes after) ∧
    ∀ halt, b.postAll fuel observer signals w = (.error halt, after) ↔
      ∃ before signal later outcomes middle, signals = before ++ signal :: later ∧
        Run.InTurn (b.post fuel observer) before w outcomes middle ∧
        b.post fuel observer signal middle = (.error halt, after) := by
  rw [postAll_eq_mapM b fuel observer distinct]
  exact ⟨fun _ => Run.mapM_ok_iff, fun _ => Run.mapM_error_iff⟩

open Sample Booth in
/-- An audit without a target is refused, and the next one breaks off when it has been acknowledged. The
last one is not even stored. -/
theorem posted_in_turn_booth :
    let watched : Bus Desk := { bus with system := some fun _ => return () }
    let homeless := { auditing with id := ⟨.ofNat 1⟩, target := none }
    let second := { auditing with id := ⟨.ofNat 2⟩ }
    let third := { auditing with id := ⟨.ofNat 3⟩ }
    let signals := [homeless, second, third]
    let halt : Halt := .error (.configuration (.missingApplier "unwired" "bank.AccountAudited"))
    let run := watched.postAll 9 .discarding signals opened
    (signals.map (·.id)).Nodup ∧
      (signals.map fun signal => (view.record run.2.outside signal.id).map (·.status)) =
        [some .error, some .received, none] ∧
      run.1 = .error halt ∧ ∃ before signal later outcomes middle, signals = before ++ signal :: later ∧
        Run.InTurn (watched.post 9 .discarding) before opened outcomes middle ∧
        watched.post 9 .discarding signal middle = (.error halt, run.2) := by
  intro watched homeless second third signals halt run
  have distinct : (signals.map (·.id)).Nodup := by decide +kernel
  have halted : run.1 = .error halt := by decide +kernel
  have broken : run = (.error halt, run.2) := by rw [← halted, Prod.eta]
  exact ⟨distinct, by decide +kernel, halted,
    ((posted_in_turn watched 9 .discarding distinct opened run.2).2 halt).mp broken⟩

end Bus

end Switchboard
