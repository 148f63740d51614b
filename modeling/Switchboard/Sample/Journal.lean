import Switchboard.Acknowledgement
import Switchboard.Entity.Storage
import Switchboard.Report

namespace Switchboard.Sample

/-! The journal of a scene: what happened, in the order in which it did. -/

/-- Something that happens, as the journal tells it. -/
inductive Occurrence where
  | saved (signal : Signal) (status : SignalStatus) (error : Option ErrorRecord) (failed : Bool)
  | listed
  | claimed (id : SignalId)
  | acknowledged (ack : Ack)
  | announced (event : Signal)
  | loaded (key : EntityKey) (found : Except StorageError Bool)
  | stored (key : EntityKey) (record : Json) (done : Except StorageError Unit)
  | invoked (set method : String) (message : Json) (context : Option SignalContext)
  | dispatched (dispatcher : String) (signal : SignalId)

/-- A backing with a journal beside it. -/
structure Journaled (β : Type) where
  backing : β
  journal : List Occurrence

namespace Journaled

/-- The storage with all calls in the journal. -/
def storage (encode : ρ → Json) (inner : EntityStorage β ρ) : EntityStorage (Journaled β) ρ where
  load key := fun j =>
    let (result, backing) := inner.load key j.backing
    (result, ⟨backing, j.journal ++ [.loaded key (result.map Option.isSome)]⟩)
  store key record := fun j =>
    let (result, backing) := inner.store key record j.backing
    (result, ⟨backing, j.journal ++ [.stored key (encode record) result]⟩)

end Journaled

namespace Occurrence

/-- What happened, as it is shown. -/
def report : Occurrence → Json
  | .saved signal status error failed =>
      let always := [
        ("save", signal.id.encode),
        ("type", .string signal.type),
        ("status", .string status.text),
        ("error", .option ErrorRecord.encode error)]
      .object (if failed then always ++ [("fault", .bool true)] else always)
  | .listed => .string "scheduled"
  | .claimed id => .object [("claim", id.encode)]
  | .acknowledged ack => .object [("ack", ack.encode)]
  | .announced event => .object [("system", event.encode)]
  | .loaded key found =>
      .object [("load", .string key.text), ("found", Report.either StorageError.report .bool found)]
  | .stored key record done =>
      .object [
        ("store", .string key.text),
        ("record", record),
        ("done", Report.either StorageError.report (fun () => .bool true) done)]
  | .invoked set method message context =>
      let always := [("invoke", .string set), ("method", .string method), ("message", message)]
      .object (match context with
        | some context => always ++ [("context", context.encode)]
        | none => always)
  | .dispatched dispatcher signal =>
      .object [("dispatch", .string dispatcher), ("signal", signal.encode)]

def reports (journal : List Occurrence) : Json := .array (journal.map report)

def acknowledgements (journal : List Occurrence) : List Ack :=
  journal.filterMap fun
    | .acknowledged ack => some ack
    | _ => none

def announcements (journal : List Occurrence) : List Signal :=
  journal.filterMap fun
    | .announced event => some event
    | _ => none

end Occurrence

end Switchboard.Sample
