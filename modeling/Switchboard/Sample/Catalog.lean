import Switchboard.Bus.Monitor
import Switchboard.Mismatch
import Switchboard.Sample.Lab.Message

namespace Switchboard.Sample

/-! All message types of the sample, each under a key of its own. -/

structure Topic where
  /-- The name on the wire, unless another topic has that name too. -/
  key : String
  Content : Type
  type : MessageType Content
  /-- Which entity a message is for, if the messages are commands. -/
  target : Option (Content → String)

namespace Topic

def command (type : MessageType μ) (target : μ → String) : Topic :=
  ⟨type.name, μ, type, some target⟩

def other (type : MessageType μ) : Topic := ⟨type.name, μ, type, none⟩

def all : List Topic := [
  command OpenAccount.type (·.id),
  command Deposit.type (·.id),
  command Withdraw.type (·.id),
  command DepositMany.type (·.id),
  command audit (·.id),
  command freeze (·.id),
  command Experiment.type (·.id),
  command Check.type (·.id),
  command probe (·.id),
  command orphaned (·.id),
  command Relabel.type (·.id),
  command Swap.type (·.id),
  command Ping.type (·.id),
  command Form.type (·.id),
  { other looseForm with key := "lab.Form#loose" },
  other AccountOpened.type,
  other deposited,
  other withdrawn,
  other InsufficientFunds.type,
  other added,
  other muted,
  other Labeled.type,
  other Noted.type,
  other Tagged.type,
  other Probed.type,
  other Refusal.type,
  other accountAudited,
  other reset,
  other sealedType,
  other removed,
  other purged,
  other orphan,
  other cursed,
  other ValueMismatch.type,
  other SignalAcknowledged.type,
  other SignalErrored.type]

def ofKey? (key : String) : Option Topic := all.find? fun topic => topic.key = key

end Topic

end Switchboard.Sample
