import Switchboard.Entity.Key
import Switchboard.Entity.Snapshot
import Switchboard.Mismatch
import Switchboard.Proofs.Acknowledgement

namespace Switchboard

/-! What becomes of messages, keys and snapshots that are written and read again. -/

open Decoder Fields

namespace EventMessage

@[simp] theorem decode_encode (m : EventMessage) : m.encode.decode decode = .ok m := by
  obtain ⟨type, data⟩ := m
  have distinct : ["data", "type"].Nodup := by decide
  exact decode_record distinct ((heldBy_field _ rfl (decode_string type)).map mk |>.andField rfl (decode_any data))

theorem readsTexts_decode : decode.ReadsTexts :=
  readsTexts_record _ (((readTexts_field readsTexts_string _ _).map mk).andField readsTexts_any)

end EventMessage

@[simp] theorem MismatchKind.decode_encode (kind : MismatchKind) : kind.encode.decode decode = .ok kind := by
  cases kind <;> rfl

namespace ValueMismatch

@[simp] theorem decode_encode (m : ValueMismatch) : m.encode.decode decode = .ok m := by
  obtain ⟨kind, expected, actual, newValue, version⟩ := m
  have distinct : ["actual", "expected", "kind", "new_value", "version"].Nodup := by decide
  exact decode_record distinct
    ((heldBy_field _ rfl (MismatchKind.decode_encode kind)).map mk
      |>.andField rfl (decode_any expected)
      |>.andField rfl (decode_any actual)
      |>.andField rfl (decode_any newValue)
      |>.andField rfl (decode_uint64 version))

theorem readsTexts_decode : decode.ReadsTexts :=
  readsTexts_record _ (((readTexts_field (readsTexts_choice _) _ _).map mk).andField readsTexts_any
    |>.andField readsTexts_any |>.andField readsTexts_any |>.andField readsTexts_uint64)

end ValueMismatch

namespace EntityKey

@[simp] theorem decode_encode (key : EntityKey) : key.encode.decode decode = .ok key := by
  obtain ⟨tenant, type, id⟩ := key
  have distinct : ["entity_type", "id", "tenant"].Nodup := by decide
  exact decode_record distinct
    ((heldBy_field _ rfl (TenantId.decode_option tenant)).map mk
      |>.andField rfl (decode_string type)
      |>.andField rfl (decode_string id))

theorem readsTexts_decode : decode.ReadsTexts :=
  readsTexts_record _ (((readTexts_field (readsTexts_string.map TenantId.mk).option _ _).map mk).andField
    readsTexts_string |>.andField readsTexts_string)

end EntityKey

namespace Lifecycle

@[simp] theorem decode_encode (l : Lifecycle) : l.encode.decode decode = .ok l := by
  obtain ⟨archived, deleted⟩ := l
  have distinct : ["archived", "deleted"].Nodup := by decide
  exact decode_record distinct
    ((heldBy_field _ rfl (decode_bool archived)).map mk |>.andField rfl (decode_bool deleted))

theorem readsTexts_decode : decode.ReadsTexts :=
  readsTexts_record _ (((readTexts_field readsTexts_bool _ _).map mk).andField readsTexts_bool)

end Lifecycle

namespace Snapshot

variable {σ : Type} {encode : σ → Json} {decode : Decoder σ}

/-- A snapshot is read back if its state is, in whatever order its members stand. -/
theorem decode_of_perm {s : Snapshot σ} {members others : List (String × Json)}
    (read : (encode s.state).decode decode = .ok s.state) (written : s.encode encode = .object members)
    (same : members.Perm others) : (Json.object others).decode (Snapshot.decode decode) = .ok s := by
  cases written
  have once : ["state", "version", "timestamp", "lifecycle"].Nodup := by decide
  have found := lookup_perm (by exact once) same
  have distinct : (others.map Prod.fst).Nodup := ((same.map Prod.fst).nodup_iff).mp once
  exact decode_record distinct
    ((heldBy_field _ (found "state").symm read).map mk
      |>.andField (found "version").symm (decode_uint64 s.version)
      |>.andField (found "timestamp").symm (decode_uint64 s.timestamp)
      |>.andField (found "lifecycle").symm s.lifecycle.decode_encode)

theorem readsTexts_decode (state : decode.ReadsTexts) : (Snapshot.decode decode).ReadsTexts :=
  readsTexts_record _ (((readTexts_field state _ _).map mk).andField readsTexts_uint64
    |>.andField readsTexts_uint64 |>.andField Lifecycle.readsTexts_decode)

end Snapshot

/-- Whatever is written of an error, a rejection, an event, a mismatch, a key, an acknowledgement or a snapshot
of a state that is itself read back, is read as it was: from the value, and from each text that stands for it, which
may have the members in any order. A number with digits that are read inexactly stands for another value. -/
theorem records_read_back {σ : Type} {encode : σ → Json} {decode : Decoder σ}
    (state : ∀ state, (encode state).decode decode = .ok state) :
    ((∀ r : ErrorRecord, r.encode.decode ErrorRecord.decode = .ok r) ∧
      (∀ r : Rejection, r.encode.decode Rejection.decode = .ok r) ∧
      (∀ m : EventMessage, m.encode.decode EventMessage.decode = .ok m) ∧
      (∀ m : ValueMismatch, m.encode.decode ValueMismatch.decode = .ok m) ∧
      (∀ key : EntityKey, key.encode.decode EntityKey.decode = .ok key) ∧
      (∀ a : Ack, a.encode.decode Ack.decode = .ok a) ∧
      ∀ s : Snapshot σ, (s.encode encode).decode (Snapshot.decode decode) = .ok s) ∧
    (ErrorRecord.decode.ReadsTexts ∧ Rejection.decode.ReadsTexts ∧ EventMessage.decode.ReadsTexts ∧
      ValueMismatch.decode.ReadsTexts ∧ EntityKey.decode.ReadsTexts ∧ Ack.decode.ReadsTexts ∧
      (decode.ReadsTexts → ∀ (s : Snapshot σ) (members : List (String × Json)) (document : Document),
        s.encode encode = .object members → document.Stands (.object (Json.Members.ofList members).entries) →
          Snapshot.decode decode (.scanned document) = .ok s)) := by
  refine ⟨⟨ErrorRecord.decode_encode, Rejection.decode_encode, EventMessage.decode_encode,
    ValueMismatch.decode_encode, EntityKey.decode_encode, Ack.decode_encode, fun s => ?_⟩,
    ErrorRecord.readsTexts_decode, Rejection.readsTexts_decode, EventMessage.readsTexts_decode,
    ValueMismatch.readsTexts_decode, EntityKey.readsTexts_decode, Ack.readsTexts_decode, ?_⟩
  · exact Snapshot.decode_of_perm (state s.state) rfl (.refl _)
  · intro texts s members document written stands
    have once : (members.map Prod.fst).Nodup := by
      cases written
      exact (by decide : ["state", "version", "timestamp", "lifecycle"].Nodup)
    exact (Snapshot.readsTexts_decode texts).read stands
      (Snapshot.decode_of_perm (state s.state) written (Json.Members.entries_ofList_perm once).symm)

/-- A snapshot of an archived label, written with its members in another order than they are declared in. -/
theorem archived_label_read_back :
    let label : Snapshot (Option String) := ⟨some "red", 3, 1700, ⟨true, false⟩⟩
    let document : Document := .object [("version", .number (.integer 3)), ("state", .string "red"),
      ("lifecycle", .object [("deleted", .bool false), ("archived", .bool true)]),
      ("timestamp", .number (.integer 1700))]
    (label.encode (.option .string)).decode (Snapshot.decode (option string)) = .ok label ∧
      Snapshot.decode (option string) (.scanned document) = .ok label := by
  intro label document
  have read := records_read_back decode_option_string
  have flags : (Document.object [("deleted", .bool false), ("archived", .bool true)]).Plain :=
    .object (by decide) (by simp [Document.Plain.bool])
  have plain : document.Plain := .object (by decide) (by simp [Document.Plain.number, Document.Plain.string, flags])
  exact ⟨read.1.2.2.2.2.2.2 label, read.2.2.2.2.2.2.2 readsTexts_string.option label _ document rfl ⟨plain, by decide⟩⟩

end Switchboard
