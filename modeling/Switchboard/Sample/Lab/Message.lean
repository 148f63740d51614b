import Switchboard.Sample.Bank.Message
import Switchboard.Signal.Basic

namespace Switchboard.Sample

/-! Messages of a laboratory, in which handling can be made to go in any way. -/

structure Refusal where
  reason : String
  code : Int64

namespace Refusal

def decode : Decoder Refusal :=
  .record "Refusal" (mk <$> .required "reason" .string <*> .required "code" .int64)

def encode (m : Refusal) : Json :=
  .object [("code", Json.int64 m.code), ("reason", .string m.reason)]

def type : MessageType Refusal := .plain "lab.Refusal" decode encode

def text (m : Refusal) : String := "refused: " ++ m.reason ++ " (" ++ toString m.code.toInt ++ ")"

end Refusal

structure Experiment where
  id : String
  emit : List EventMessage
  reject : Option Refusal
  fail : Option String
  crash : Bool

def Experiment.type : MessageType Experiment :=
  .plain "lab.Run"
    (.record "Run" (mk
      <$> .required "id" .string
      <*> .withDefault "emit" [] (.list EventMessage.decode)
      <*> .optional "reject" Refusal.decode
      <*> .optional "fail" .string
      <*> .withDefault "crash" false .bool))
    fun m => .object [
      ("crash", .bool m.crash),
      ("emit", .array (m.emit.map EventMessage.encode)),
      ("fail", .option .string m.fail),
      ("id", .string m.id),
      ("reject", .option Refusal.encode m.reject)]

structure Check where
  id : String
  helper : String
  text : String
  newText : Option String
  num : Int64
  newNum : Int64

def Check.type : MessageType Check :=
  .plain "lab.Check"
    (.record "Check" (mk
      <$> .required "id" .string
      <*> .required "helper" .string
      <*> .withDefault "text" "" .string
      <*> .optional "new_text" .string
      <*> .withDefault "num" 0 .int64
      <*> .withDefault "new_num" 0 .int64))
    fun m => .object [
      ("helper", .string m.helper),
      ("id", .string m.id),
      ("new_num", Json.int64 m.newNum),
      ("new_text", .option .string m.newText),
      ("num", Json.int64 m.num),
      ("text", .string m.text)]

def probe : MessageType Addressed := Addressed.named "lab.Probe" "Probe"

def orphaned : MessageType Addressed := Addressed.named "lab.Orphaned" "Orphaned"

structure Relabel where
  id : String
  label : String

def Relabel.type : MessageType Relabel :=
  .plain "lab.Relabel"
    (.record "Relabel" (mk <$> .required "id" .string <*> .required "label" .string))
    fun m => .object [("id", .string m.id), ("label", .string m.label)]

structure Swap where
  id : String
  amount : Int64
  label : String

def Swap.type : MessageType Swap :=
  .plain "lab.Swap"
    (.record "Swap"
      (mk <$> .required "id" .string <*> .required "amount" .int64 <*> .required "label" .string))
    fun m => .object [
      ("amount", Json.int64 m.amount), ("id", .string m.id), ("label", .string m.label)]

structure Ping where
  id : String
  note : Option String

def Ping.type : MessageType Ping :=
  .plain "lab.Ping" (.record "Ping" (mk <$> .required "id" .string <*> .optional "note" .string))
    fun m => .object [("id", .string m.id), ("note", .option .string m.note)]

structure Form where
  id : String
  name : String
  age : UInt32
  tags : List String

namespace Form

def violations (m : Form) : List Violation :=
  let rule (broken : Bool) (field message : String) : List Violation :=
    if broken then [⟨field, message⟩] else []
  rule m.name.isEmpty "name" "must not be empty" ++
    rule (8 < m.name.length) "name" "must have at most 8 characters" ++
    rule (m.age < 18) "age" "must be at least 18" ++
    m.tags.zipIdx.flatMap fun (tag, i) => rule tag.isEmpty s!"tags[{i}]" "must not be empty"

def type : MessageType Form where
  name := "lab.Form"
  decode := .record "Form" (mk
    <$> .required "id" .string
    <*> .required "name" .string
    <*> .required "age" .uint32
    <*> .required "tags" (.list .string))
  encode m := .ok (.object [
    ("age", .nat m.age.toNat),
    ("id", .string m.id),
    ("name", .string m.name),
    ("tags", .strings m.tags)])
  violations := violations

end Form

/-- A form of which only the addressee is asked for, under the same name on the wire. -/
def looseForm : MessageType Addressed := Addressed.named "lab.Form" "LooseForm"

def added : MessageType Amount := Amount.named "lab.Added" "Added"

def muted : MessageType Amount := Amount.named "lab.Muted" "Muted"

structure Labeled where
  label : String

namespace Labeled

def decode : Decoder Labeled := .record "Labeled" (mk <$> .required "label" .string)

def type : MessageType Labeled :=
  .plain "lab.Labeled" decode fun m => .object [("label", .string m.label)]

end Labeled

structure Noted where
  text : String

def Noted.type : MessageType Noted :=
  .plain "lab.Noted" (.record "Noted" (mk <$> .required "text" .string))
    fun m => .object [("text", .string m.text)]

structure Tagged where
  tag : String
  weight : Option UInt64
  extra : Json

def Tagged.type : MessageType Tagged :=
  .plain "lab.Tagged"
    (.record "Tagged" (mk
      <$> .required "tag" .string
      <*> .optional "weight" .uint64
      <*> .withDefault "extra" .null .any))
    fun m => .object [
      ("extra", m.extra), ("tag", .string m.tag), ("weight", .option (.nat ·.toNat) m.weight)]

structure Probed where
  aggregateId : String
  version : UInt64
  signalId : SignalId
  signalType : String
  actor : Option String
  tenant : Option String
  delivers : UInt64

def Probed.type : MessageType Probed :=
  .plain "lab.Probed"
    (.record "Probed" (mk
      <$> .required "aggregate_id" .string
      <*> .required "version" .uint64
      <*> .required "signal_id" SignalId.decode
      <*> .required "signal_type" .string
      <*> .optional "actor" .string
      <*> .optional "tenant" .string
      <*> .required "delivers" .uint64))
    fun m => .object [
      ("actor", .option .string m.actor),
      ("aggregate_id", .string m.aggregateId),
      ("delivers", .nat m.delivers.toNat),
      ("signal_id", m.signalId.encode),
      ("signal_type", .string m.signalType),
      ("tenant", .option .string m.tenant),
      ("version", .nat m.version.toNat)]

def reset : MessageType Unit := bare "lab.Reset" "Reset"

def sealedType : MessageType Unit := bare "lab.Sealed" "Sealed"

def removed : MessageType Unit := bare "lab.Removed" "Removed"

def purged : MessageType Unit := bare "lab.Purged" "Purged"

def orphan : MessageType Unit := bare "lab.Orphan" "Orphan"

/-- A message that cannot be written. -/
def cursed : MessageType Unit where
  name := "lab.Cursed"
  decode := .unitRecord "Cursed"
  encode _ := .error ⟨"cursed value"⟩
  violations _ := []

end Switchboard.Sample
