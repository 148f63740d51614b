import Switchboard.Bus.Processing

namespace Switchboard

/-! Posting signals. -/

namespace Bus

/-- What keeps a signal of a supported type from being accepted. -/
def defect? (b : Bus ω) (signal : Signal) (message : MessageClass) : Option SignalDefect :=
  if b.multitenant ∧ signal.tenant.isNone then some (.missingTenant signal.id)
  else
    let homeless := signal.kind = .command ∧ (signal.target.getD "").isEmpty
    let violations :=
      (if homeless then [⟨"target", "must not be empty"⟩] else []) ++ message.check signal.payload
    if violations.isEmpty then none else some (.invalid signal.id signal.type violations)

/-- Posts a signal under an observer. A signal that is refused is acknowledged with the
error; any other as soon as it is stored. One that is due later is only stored. -/
def accept (b : Bus ω) (fuel : Nat) (observer : Observer ω) (signal : Signal) :
    Run ω Outcome := do
  match (b.registry signal.kind).class? signal.type with
  | none =>
      let error := unsupportedRecord signal
      Run.notifying observer (.error signal.id error)
      return .failure error
  | some message =>
      match b.defect? signal message with
      | some defect =>
          let error := defect.record
          b.save signal .error (some error)
          Run.notifying observer (.error signal.id error)
          return .failure error
      | none =>
          if signal.context.isDelayed (← Run.acting (Act.drawing Supply.now)) then
            b.save signal .scheduled none
            Run.notifying observer (.ok signal.id)
            return .success []
          else
            b.save signal .received none
            Run.notifying observer (.ok signal.id)
            b.carryOut fuel signal

/-- The observer to use for signals that are posted together. -/
def monitored (b : Bus ω) (observer : Observer ω) (signals : List Signal) : Observer ω :=
  match b.system with
  | some post => (Monitor.of signals).observer observer post
  | none => observer

def post (b : Bus ω) (fuel : Nat) (observer : Observer ω) (signal : Signal) : Run ω Outcome :=
  b.accept fuel (b.monitored observer [signal]) signal

/-- Posts signals one after another, up to the first that breaks off. -/
def postAll (b : Bus ω) (fuel : Nat) (observer : Observer ω) (signals : List Signal) :
    Run ω (List Outcome) :=
  signals.mapM (b.accept fuel (b.monitored observer signals))

def record (b : Bus ω) (id : SignalId) : Run ω (Option SignalRecord) :=
  Run.storing (b.store.record id)

end Bus

end Switchboard
