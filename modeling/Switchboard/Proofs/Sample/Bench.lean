import Switchboard.Proofs.Aggregate.Construction
import Switchboard.Proofs.Sample.Branch
import Switchboard.Sample.Lab.Model

namespace Switchboard.Sample.Bench

/-! A bench in the laboratory, with one specimen on it. -/

theorem model_built : Lab.model.Built := by
  unfold Lab.model
  repeat first | apply AggregateModel.Built.deleted | apply AggregateModel.Built.archived |
    apply AggregateModel.Built.neutral | apply AggregateModel.Built.applies | apply AggregateModel.Built.handles
  exact .empty "lab" Lab.initial

def specimen : Root Lab := .fresh Lab.model (.ofType "lab" "x")

/-- Something that happens to the specimen at some time. -/
def event (time : UInt64) (message : EventMessage) : Signal where
  id := ⟨.ofNat 0⟩
  kind := .event
  type := message.type
  target := some "x"
  payload := message.data
  context := .ofTime time

def adding : EventMessage := ⟨added.name, .object [("amount", .nat 5)]⟩

def removing : EventMessage := ⟨removed.name, .null⟩

def muting : EventMessage := ⟨muted.name, .object [("amount", .nat 3)]⟩

def sealing : EventMessage := ⟨sealedType.name, .null⟩

/-- Nothing applies it. -/
def orphaning : EventMessage := ⟨orphan.name, .null⟩

/-- An experiment with these events. -/
def experiment (messages : List EventMessage) : Signal :=
  Branch.command Experiment.type.name "x" [("emit", .array (messages.map EventMessage.encode))]

end Switchboard.Sample.Bench
