import Switchboard.Bus.Sweep
import Switchboard.Proofs.Bus.Conduct
import Switchboard.Proofs.Consumer.Registration
import Switchboard.Proofs.Sample.Branch

namespace Switchboard.Sample.Booth

/-! A booth whose clerk takes audits, and lacks what would apply their outcome. Its ledger never
fails. -/

structure Desk where
  ledger : SignalLedger
  units : RepositoryState (MemoryRecords (Snapshot Unwired)) Unwired

def ledger : Place Desk SignalLedger where
  get := Desk.ledger
  set ledger d := { d with ledger }
  get_set _ _ := rfl
  set_get _ := rfl
  set_set _ _ _ := rfl

def units : Place Desk (RepositoryState (MemoryRecords (Snapshot Unwired)) Unwired) where
  get := Desk.units
  set units d := { d with units }
  get_set _ _ := rfl
  set_get _ := rfl
  set_set _ _ _ := rfl

def repository : Repository (MemoryRecords (Snapshot Unwired)) Unwired := .of Unwired.model MemoryRecords.storage

def view : (SignalLedger.store ledger).View := SignalLedger.view ledger

def bus : Bus Desk where
  commands := (Registry.empty .exclusive).subscribe (.dispatcher (repository.dispatcher units)) audit.toClass
  events := .empty .shared
  store := SignalLedger.store ledger
  system := none
  multitenant := false

theorem bus_apart : bus.Apart view := by
  constructor
  · intro kind type c member
    cases kind with
    | command =>
        obtain ⟨⟨⟩⟩ | ⟨-, rfl⟩ := Registry.mem_consumers_subscribe.mp member
        exact .repository repository units fun _ _ => rfl
    | event => cases member
  · intro post system
    cases system

def opened : World Desk := ⟨Branch.supply, .empty, .cold .empty⟩

def auditing : Signal := Branch.command audit.name "u" []

end Switchboard.Sample.Booth
