import Switchboard.Sample.Bank.Account
import Switchboard.Sample.Lab.Message

namespace Switchboard.Sample

/-! Entities of a laboratory. -/

structure Lab where
  label : String
  total : Int64
  log : List String

namespace Lab

def initial : Lab := ⟨"", 0, []⟩

def encode (l : Lab) : Json :=
  .object [("label", .string l.label), ("total", Json.int64 l.total), ("log", .strings l.log)]

def decode : Decoder Lab :=
  .record "Lab"
    (mk
      <$> .required "label" .string
      <*> .required "total" .int64
      <*> .required "log" (.list .string))

/-- Amounts as a mismatch shows them. -/
def amountShown : ValueMismatch.Shown Int64 := ⟨fun n => .ok (Json.int64 n), 0⟩

def run (m : Experiment) : Verdict :=
  if m.crash then .crashed
  else
    match m.reject, m.fail with
    | some reason, _ => .given (.error (.reject Refusal.type Refusal.text reason))
    | none, some text => .given (.error (.failed "LabError" ("lab: " ++ text)))
    | none, none => .given (.ok m.emit)

/-- Refuses with the mismatch asked for, if it is a known one. -/
def check (l : Lab) (m : Check) (context : HandlerContext) : Verdict :=
  let version := context.version
  let newText := m.newText.getD ""
  let mismatch : Option ValueMismatch :=
    if m.helper = "default" then some (.expectedDefault .string l.label newText version)
    else if m.helper = "default_num" then some (.expectedDefault amountShown l.total m.newNum version)
    else if m.helper = "not_default" then some (.expectedNotDefault .string m.text m.newText version)
    else if m.helper = "value" then some (.unexpectedValue amountShown m.num l.total m.newNum version)
    else if m.helper = "empty" then some (.expectedEmpty l.label newText version)
    else if m.helper = "not_empty" then some (.expectedNotEmpty m.text version)
    else if m.helper = "string" then some (.unexpectedString m.text l.label newText version)
    else none
  match mismatch with
  | some mismatch => Account.refusing mismatch
  | none => .given (.ok [])

def probing (context : HandlerContext) : Verdict :=
  Account.giving (Probed.type.oneEvent {
    aggregateId := context.aggregateId
    version := context.version
    signalId := context.signal.id
    signalType := context.signal.type
    actor := context.signal.context.actor
    tenant := context.signal.tenant.map (·.name)
    delivers := context.signal.context.deliverAt })

def relabel (l : Lab) (m : Relabel) : Verdict :=
  Account.giving (Labeled.type.optionalEvent (if l.label = m.label then none else some ⟨m.label⟩))

def note (l : Lab) (entry : String) : Lab := { l with log := l.log ++ [entry] }

def add (l : Lab) (amount : Int64) : Lab :=
  { l with total := saturated (l.total.toInt + amount.toInt) }

def tagEntry (m : Tagged) : String :=
  m.tag ++ ":" ++ toString (m.weight.getD 0).toNat ++ ":" ++ m.extra.compact

def model : AggregateModel Lab :=
  (AggregateModel.empty "lab" initial)
    |>.handles Experiment.type (fun _ m _ => run m)
    |>.handles Check.type check
    |>.handles probe (fun _ _ context => probing context)
    |>.handles Relabel.type (fun l m _ => l.relabel m)
    |>.handles Swap.type (fun _ m _ =>
      Account.giving (added.eventPair Labeled.type (⟨m.amount⟩, ⟨m.label⟩)))
    |>.applies added (fun l m => (l.add m.amount).note ("+" ++ toString m.amount.toInt))
    |>.applies Labeled.type (fun l m => { l with label := m.label }.note ("=" ++ m.label))
    |>.applies Tagged.type (fun l m => l.note (tagEntry m))
    |>.applies muted (fun l m => l.add m.amount)
    |>.applies reset (fun _ _ => initial)
    |>.applies sealedType (fun l _ => l.note "sealed")
    |>.withNeutral muted.name
    |>.withNeutral Noted.type.name
    |>.withNeutral Probed.type.name
    |>.withNeutral removed.name
    |>.archivedBy sealedType.name
    |>.archivedBy purged.name
    |>.deletedBy removed.name

end Lab

end Switchboard.Sample
