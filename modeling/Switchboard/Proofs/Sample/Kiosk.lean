import Switchboard.Bus.Posting
import Switchboard.Proofs.Bus.Conduct
import Switchboard.Proofs.Consumer.Registration
import Switchboard.Proofs.Sample.Branch

namespace Switchboard.Sample.Kiosk

/-! A kiosk of a bank, with its accounts in memory. An usher turns away whoever wants to audit them. -/

structure Desk where
  ledger : SignalLedger
  accounts : RepositoryState (MemoryRecords (Snapshot Account)) Account

def ledger : Place Desk SignalLedger where
  get := Desk.ledger
  set ledger d := { d with ledger }
  get_set _ _ := rfl
  set_get _ := rfl
  set_set _ _ _ := rfl

def accounts : Place Desk (RepositoryState (MemoryRecords (Snapshot Account)) Account) where
  get := Desk.accounts
  set accounts d := { d with accounts }
  get_set _ _ := rfl
  set_get _ := rfl
  set_set _ _ _ := rfl

def repository : Repository (MemoryRecords (Snapshot Account)) Account := .of Account.model MemoryRecords.storage

def view : (SignalLedger.store ledger).View := SignalLedger.view ledger

/-- The accounts as they are, and as they are recorded. -/
def seen (d : Desk) : (EntityKey → Snapshot Account) × (EntityKey → Option (Snapshot Account)) :=
  let inventory := repository.inventory MemoryRecords.view d.accounts.cached
  (inventory.latest Account.model, inventory.records)

def usher : HandlerSet Desk := .ofMethods "usher" [.on audit fun _ => return .error (.failed "Error" "closed")]

def bus : Bus Desk where
  commands := ((Registry.empty .exclusive).subscribe (.dispatcher (repository.dispatcher accounts))
    Withdraw.type.toClass).subscribe (.handlers usher) audit.toClass
  events := .empty .shared
  store := SignalLedger.store ledger
  system := none
  multitenant := false

theorem bus_apart : bus.Apart view := by
  constructor
  · intro kind type c member
    cases kind with
    | command =>
        simp only [Bus.registry, bus, Registry.mem_consumers_subscribe] at member
        rcases member with (⟨⟨⟩⟩ | ⟨-, rfl⟩) | ⟨-, rfl⟩
        · exact .repository repository accounts fun _ _ => rfl
        · exact .of_still (List.forall_mem_singleton.mpr (HandlerMethod.still_on _ _))
    | event => cases member
  · intro post system
    cases system

def opened : World Desk := ⟨Branch.supply, .empty, .cold .empty⟩

/-- A command under an id of its own. -/
def asked (type : String) (content : List (String × Json)) : Signal :=
  { Branch.command type "a" content with id := ⟨.ofNat 500⟩ }

end Switchboard.Sample.Kiosk
