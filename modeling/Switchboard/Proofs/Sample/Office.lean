import Switchboard.Bus.Posting
import Switchboard.Bus.Sweep
import Switchboard.Proofs.Sample.Branch
import Switchboard.Proofs.Bus.Conduct
import Switchboard.Proofs.Consumer.Registration

namespace Switchboard.Sample.Office

/-! An office that passes signals on to a branch. Its ledger of signals may fail it. -/

structure Desk where
  ledger : SignalLedger
  faults : Faults
  branch : RepositoryState Branch.Disk Account

def ledger : Place Desk SignalLedger where
  get := Desk.ledger
  set ledger d := { d with ledger }
  get_set _ _ := rfl
  set_get _ := rfl
  set_set _ _ _ := rfl

def faults : Place Desk Faults where
  get := Desk.faults
  set faults d := { d with faults }
  get_set _ _ := rfl
  set_get _ := rfl
  set_set _ _ _ := rfl

def branch : Place Desk (RepositoryState Branch.Disk Account) where
  get := Desk.branch
  set branch d := { d with branch }
  get_set _ _ := rfl
  set_get _ := rfl
  set_set _ _ _ := rfl

def store : SignalStore Desk := (SignalLedger.store ledger).failing faults

def view : store.View := (SignalLedger.view ledger).failing fun _ _ => rfl

/-- Takes deposits that need not be booked. -/
def teller : HandlerSet Desk := .ofMethods "teller" [.on Deposit.type fun deposit =>
  return .ofEvents ((deposited.event ⟨deposit.amount⟩).map ([·]))]

def auditor : HandlerSet Desk := .ofMethods "auditor" [.on deposited fun _ => return .ok []]

def plan : BusPlan Desk where
  store
  system := none
  multitenant := false
  consumers := [(.command, .handlers teller), (.event, .handlers auditor)]

def counter : Bus Desk :=
  match plan.build with
  | .ok bus => bus
  | .error _ => ⟨.empty .exclusive, .empty .shared, store, none, false⟩

theorem counter_built : plan.build = .ok counter := by
  have accepted : plan.build.isOk = true := by decide +kernel
  unfold counter
  cases built : plan.build with
  | ok bus => rfl
  | error error => simp [built, Except.isOk, Except.toBool] at accepted

/-- Wants to be told of deposits twice. -/
def twin : Dispatcher Desk where
  id := "twin"
  classes := [Deposit.type.toClass, Deposit.type.toClass]
  dispatch _ := return .ok (.success [])

/-- The office with a branch that books everything. -/
def bus : Bus Desk where
  commands := [OpenAccount.type.toClass, Deposit.type.toClass].foldl
    (Registry.subscribe · (.dispatcher (Branch.repository.dispatcher branch)) ·) (.empty .exclusive)
  events := (Registry.empty .shared).subscribe (.handlers auditor) deposited.toClass
  store
  system := none
  multitenant := false

theorem bus_apart : bus.Apart view := by
  constructor
  · intro kind type c member
    cases kind with
    | command =>
        rw [Bus.registry, bus, Registry.consumers_subscribed] at member
        have same : c = .dispatcher (Branch.repository.dispatcher branch) := List.eq_of_mem_replicate member
        rw [same]
        exact .repository Branch.repository branch fun _ _ => rfl
    | event =>
        obtain ⟨⟨⟩⟩ | ⟨-, rfl⟩ := Registry.mem_consumers_subscribe.mp member
        refine .handlers auditor ?_
        intro m among payload context outside
        have only : m = .on deposited fun _ => return .ok [] := List.mem_singleton.mp among
        rw [only]
        simp only [HandlerMethod.on, HandlerMethod.reading]
        cases payload.decode deposited.decode <;> rfl
  · intro post system
    cases system

theorem discarding_apart : Observer.Apart view .discarding := fun _ _ => ⟨rfl, .refl _⟩

/-- The office when every signal has to name a tenant. -/
def guarded : Bus Desk := { bus with multitenant := true }

theorem guarded_apart : guarded.Apart view := ⟨bus_apart.consumers, bus_apart.system⟩

/-- The office when somebody takes its system events. -/
def announcing : Bus Desk := { bus with system := some fun _ => return () }

/-- The office before anything has come in. -/
def opened (faults : Faults) : World Desk :=
  ⟨⟨fun n => ⟨.ofNat (100 + n)⟩, fun n => .ofNat n, 0, 0⟩, .empty, faults, .cold ⟨.empty, .none, .none⟩⟩

/-- A command of the branch under an id of its own, with a delay of some milliseconds. -/
def posted (id delay : Nat) (command : Signal) : Signal :=
  { command with id := ⟨.ofNat id⟩, context := { command.context with delay := some (.ofNat delay) } }

/-- The signal as a tenant posts it. -/
def tenants (signal : Signal) : Signal := { signal with context := signal.context.withTenant ⟨"acme"⟩ }

/-- A deposit that is due a little later. -/
def later : Signal := posted 2 4 (Branch.deposit "a")

/-- When that deposit is due, with nothing done since it was posted. -/
def due : World Desk :=
  let w := (counter.post 9 .discarding later (opened .none)).2
  { w with supply := { w.supply with readings := 9 } }

/-- The office when somebody else is always faster in claiming. -/
def forestalled : Bus Desk := { counter with store := { store with claim := fun _ => return .ok false } }

end Switchboard.Sample.Office
