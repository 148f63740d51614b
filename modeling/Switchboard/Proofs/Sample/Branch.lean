import Switchboard.Entity.RecordFiles
import Switchboard.Proofs.Entity.StorageView
import Switchboard.Repository.Basic
import Switchboard.Sample.Bank.Account

namespace Switchboard.Sample.Branch

/-! A branch of a bank, with its accounts on a disk that may fail. -/

abbrev Disk := Faulty (MemoryRecords (Snapshot Account))

def repository : Repository Disk Account := .of Account.model (Faulty.storage MemoryRecords.storage)

def view : repository.storage.View := Faulty.view MemoryRecords.view

def supply : Supply := ⟨fun n => ⟨.ofNat n⟩, fun n => .ofNat n, 0, 0⟩

def start (loading storing : Faults) : World (RepositoryState Disk Account) :=
  ⟨supply, .cold ⟨.empty, loading, storing⟩⟩

/-- Accounts on a disk that never fails, with a log of what it is asked. -/
def archive : Repository (Logged (MemoryRecords (Snapshot Account))) Account :=
  .of Account.model (Logged.storage MemoryRecords.storage)

def archiveView : archive.storage.View := Logged.view MemoryRecords.view

def archiveStart : World (RepositoryState (Logged (MemoryRecords (Snapshot Account))) Account) :=
  ⟨supply, .cold ⟨.empty, []⟩⟩

def clerk : ActorRef := ⟨archive.keyFor none "a", 0⟩

/-- An account as a tenant has it. -/
def tenants : Root Account := .fresh Account.model (clerk.key.withTenant ⟨"acme"⟩)

def attended : World (RepositoryState (Logged (MemoryRecords (Snapshot Account))) Account) :=
  (Act.outside (Repository.actor clerk.key) archiveStart).2

def command (type account : String) (content : List (String × Json)) : Signal where
  id := ⟨.ofNat 0⟩
  kind := .command
  type := type
  target := some account
  payload := .object (("id", .string account) :: content)
  context := .ofTime 0

def opening (account : String) : Signal :=
  command OpenAccount.type.name account [("owner", .string "Ada")]

def deposit (account : String) : Signal :=
  command Deposit.type.name account [("amount", .nat 5)]

def withdrawal (account : String) : Signal :=
  command Withdraw.type.name account [("amount", .nat 5)]

def diskError : StorageError := .io "disk error"

/-- The archive, with tenants told apart. -/
def chain : Repository (Logged (MemoryRecords (Snapshot Account))) Account := { archive with multitenant := true }

def chainView : chain.storage.View := archiveView

def ofTenant (tenant : TenantId) (command : Signal) : Signal :=
  { command with context := command.context.withTenant tenant }

/-- The archive, where the first message finds that its actor has ended. -/
def racing : Repository (Logged (MemoryRecords (Snapshot Account))) Account := { archive with late := (· == 0) }

/-- Accounts of several tenants in files. -/
def vault : Repository FileSystem Account :=
  { Repository.of Account.model
      (RecordFiles.mk [] (Snapshot.encode Account.encode) (Snapshot.decode Account.decode)).storage with
    multitenant := true }

def vaultStart : World (RepositoryState FileSystem Account) := ⟨supply, .cold .empty⟩

end Switchboard.Sample.Branch
