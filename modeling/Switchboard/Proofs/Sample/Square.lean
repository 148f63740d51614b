import Switchboard.Proofs.Bus.Conduct
import Switchboard.Proofs.Consumer.Registration
import Switchboard.Proofs.Consumer.Regularity
import Switchboard.Proofs.Sample.Branch

namespace Switchboard.Sample.Square

/-! A square where it is cried out what happens at the bank. There is nothing but a ledger. -/

def whole : Place SignalLedger SignalLedger where
  get := id
  set ledger _ := ledger
  get_set _ _ := rfl
  set_get _ := rfl
  set_set _ _ _ := rfl

def view : (SignalLedger.store whole).View := SignalLedger.view whole

/-- Cries out two deposits for every account that is opened. -/
def herald : HandlerSet SignalLedger := .ofMethods "herald" [.on AccountOpened.type fun _ =>
  return .ofEvents (deposited.eventList [⟨1⟩, ⟨2⟩])]

/-- Wants no accounts to be opened. -/
def warden : HandlerSet SignalLedger := .ofMethods "warden" [.on AccountOpened.type fun _ =>
  return .error (.failed "Error" "no more accounts")]

def auditor : HandlerSet SignalLedger := .ofMethods "auditor" [.on deposited fun _ => return .ok []]

def bus : Bus SignalLedger where
  commands := .empty .exclusive
  events :=
    [(herald, AccountOpened.type.toClass), (warden, AccountOpened.type.toClass), (auditor, deposited.toClass)].foldl
      (fun r (set, message) => r.subscribe (.handlers set) message) (.empty .shared)
  store := SignalLedger.store whole
  system := none
  multitenant := false

def audience : List (HandlerSet SignalLedger) := [herald, warden, auditor]

theorem audience_still : ∀ set ∈ audience, ∀ m ∈ set.methods, m.Still := by
  simp only [audience, List.forall_mem_cons, List.not_mem_nil, false_imp_iff, implies_true, and_true]
  refine ⟨?_, ?_, ?_⟩ <;> exact List.forall_mem_singleton.mpr (HandlerMethod.still_on _ _)

theorem subscribers {type : String} {c : Consumer SignalLedger} (member : c ∈ bus.events.consumers type) :
    ∃ set ∈ audience, c = .handlers set := by
  simp only [bus, List.foldl_cons, List.foldl_nil, Registry.mem_consumers_subscribe] at member
  rcases member with ((⟨⟨⟩⟩ | ⟨-, first⟩) | ⟨-, second⟩) | ⟨-, third⟩
  · exact ⟨herald, by simp [audience], first⟩
  · exact ⟨warden, by simp [audience], second⟩
  · exact ⟨auditor, by simp [audience], third⟩

theorem consumers {kind : SignalKind} {type : String} {c : Consumer SignalLedger}
    (member : c ∈ (bus.registry kind).consumers type) :
    ∃ set, c = .handlers set ∧ ∀ m ∈ set.methods, m.Still := by
  cases kind with
  | command => cases member
  | event =>
      obtain ⟨set, among, rfl⟩ := subscribers member
      exact ⟨set, rfl, audience_still set among⟩

theorem bus_apart : bus.Apart view := by
  constructor
  · intro kind type c member
    obtain ⟨set, rfl, still⟩ := consumers member
    exact .of_still still
  · intro post system
    cases system

/-- Opens accounts for whoever asks. -/
def clerk : HandlerSet SignalLedger := .ofMethods "clerk" [.on OpenAccount.type fun command =>
  return .ofEvents (AccountOpened.type.oneEvent ⟨command.owner⟩)]

/-- The square with its clerk. -/
def staffed : Bus SignalLedger :=
  { bus with commands := (Registry.empty .exclusive).subscribe (.handlers clerk) OpenAccount.type.toClass }

/-- The square while nobody takes events. -/
def deserted : Bus SignalLedger := { bus with events := .empty .shared }

def crowd (subscribers : List (HandlerSet SignalLedger)) : Registry SignalLedger :=
  ((subscribers.map Consumer.handlers).forM Registry.register deserted.events).2

theorem audience_regular : ∀ set ∈ audience, ∀ m ∈ set.methods, m.Regular := by
  simp only [audience, List.forall_mem_cons, List.not_mem_nil, false_imp_iff, implies_true, and_true]
  refine ⟨?_, ?_, ?_⟩ <;> exact List.forall_mem_singleton.mpr (HandlerMethod.regular_reading fun _ _ _ _ _ _ => rfl)

theorem crowd_registered (subscribers : List (HandlerSet SignalLedger))
    (accepted : ((subscribers.map Consumer.handlers).forM Registry.register deserted.events).1.isOk = true) :
    (subscribers.map Consumer.handlers).forM Registry.register deserted.events = (.ok (), crowd subscribers) :=
  Computation.eq_of_isOk accepted

def opened : World SignalLedger := ⟨Branch.supply, .empty⟩

def opening : Signal where
  id := ⟨.ofNat 500⟩
  kind := .event
  type := AccountOpened.type.name
  target := some "a"
  payload := .object [("owner", .string "Ada")]
  context := .ofTime 0

/-- What happens when an account is opened before such an audience. -/
def announced (subscribers : List (HandlerSet SignalLedger)) : Except Halt Unit × World SignalLedger :=
  (deserted.withRegistry .event (crowd subscribers)).publish 9 [opening] opened

/-- The first two ids are new to the square. -/
theorem opened_fresh {later : World SignalLedger} (drawn : later.supply.idsDrawn = 2) :
    opened.supply.Fresh later.supply.idsDrawn fun id =>
      id ∈ [opening].map (·.id) ∨ (view.record opened.outside id).isSome := by
  rw [drawn]
  constructor
  · intro n _ below used
    obtain rfl | rfl : n = 0 ∨ n = 1 := by omega
    all_goals exact absurd used (by decide +kernel)
  · intro m n _ belowM _ belowN same
    obtain rfl | rfl : m = 0 ∨ m = 1 := by omega
    all_goals obtain rfl | rfl : n = 0 ∨ n = 1 := by omega
    all_goals first | rfl | exact absurd same (by decide +kernel)

end Switchboard.Sample.Square
