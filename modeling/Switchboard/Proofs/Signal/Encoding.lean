import Switchboard.Proofs.Json.Reading
import Switchboard.Proofs.Sample.Branch
import Switchboard.Proofs.Uuid
import Switchboard.Signal.Record

namespace Switchboard

/-! What becomes of signals and their records that are written and read again. -/

open Decoder Fields

@[simp] theorem SignalId.decode_encode (id : SignalId) : id.encode.decode decode = .ok id :=
  congrArg (Except.map mk) (decode_uuid id.uuid)

theorem SignalId.decode_option (found : Option SignalId) :
    (Json.option encode found).decode (Decoder.option decode) = .ok found :=
  Decoder.decode_option fun id => ⟨nofun, id.decode_encode⟩

theorem TenantId.decode_option (found : Option TenantId) :
    (Json.option encode found).decode (Decoder.option decode) = .ok found :=
  Decoder.decode_option fun _ => ⟨nofun, rfl⟩

@[simp] theorem SignalKind.decode_encode (kind : SignalKind) : kind.encode.decode decode = .ok kind := by
  cases kind <;> rfl

@[simp] theorem SignalStatus.decode_encode (status : SignalStatus) : status.encode.decode decode = .ok status := by
  cases status <;> rfl

namespace ErrorRecord

theorem encode_ne_null (r : ErrorRecord) : r.encode ≠ .null := by
  rw [encode]
  exact nofun

@[simp] theorem decode_encode (r : ErrorRecord) : r.encode.decode decode = .ok r := by
  obtain ⟨type, message, code, attributes⟩ := r
  unfold encode decode
  cases empty : attributes.isEmpty with
  | true =>
      have none : attributes = .empty := Json.Members.eq_of_entries (List.isEmpty_iff.mp empty)
      subst none
      have distinct : ["code", "error_type", "message"].Nodup := by decide
      exact decode_record distinct
        (((heldBy_field _ rfl (decode_string type)).map mk |>.andField rfl (decode_string message)
          |>.andField rfl (decode_int32 code)).seq (heldBy_withDefault rfl))
  | false =>
      have distinct : ["attributes", "code", "error_type", "message"].Nodup := by decide
      exact decode_record distinct
        ((heldBy_field _ rfl (decode_string type)).map mk |>.andField rfl (decode_string message)
          |>.andField rfl (decode_int32 code) |>.andField rfl (decode_members attributes))

end ErrorRecord

namespace SignalContext

/-- What is left of a context that has been written and read again. -/
def readBack (c : SignalContext) : SignalContext := { c with metadata := c.metadata.filter (· ≠ .null) }

theorem decode_encode (c : SignalContext) : c.encode.decode decode = .ok c.readBack := by
  obtain ⟨actor, tenant, timestamp, delay, origin, correlation, producer, version, metadata⟩ := c
  have distinct : ["actor", "correlation_id", "delay_ms", "metadata", "origin", "producer_id", "tenant",
    "timestamp", "version"].Nodup := by decide
  exact decode_record distinct
    ((heldBy_field _ rfl (decode_option_string _)).map mk
      |>.andField rfl (TenantId.decode_option tenant)
      |>.andField rfl (decode_uint64 timestamp)
      |>.andField rfl (decode_option_uint64 delay)
      |>.andField rfl (SignalId.decode_option origin)
      |>.andField rfl (decode_option_string _)
      |>.andField rfl (decode_option_string _)
      |>.andField rfl (decode_option_uint64 version)
      |>.andField rfl (decode_option_any metadata))

theorem readBack_eq_self_iff {c : SignalContext} : c.readBack = c ↔ c.metadata ≠ some .null := by
  obtain ⟨actor, tenant, timestamp, delay, origin, correlation, producer, version, metadata⟩ := c
  simp only [readBack, mk.injEq, true_and]
  cases metadata with
  | none => simp
  | some json => simp [Option.filter_some]

/-- What is lost was never written. -/
theorem encode_readBack (c : SignalContext) : c.readBack.encode = c.encode := by
  obtain ⟨actor, tenant, timestamp, delay, origin, correlation, producer, version, metadata⟩ := c
  have same : Json.option id (metadata.filter (· ≠ .null)) = Json.option id metadata := by
    cases metadata with
    | none => rfl
    | some json =>
        by_cases null : json = .null
        · subst null
          rfl
        · rw [Option.filter_some, if_pos (by simpa using null)]
  simp only [readBack, encode, same]

end SignalContext

namespace Signal

/-- What is left of a signal that has been written and read again. -/
def readBack (s : Signal) : Signal := { s with context := s.context.readBack }

theorem decode_encode (s : Signal) : s.encode.decode decode = .ok s.readBack := by
  obtain ⟨id, kind, type, target, payload, context⟩ := s
  have distinct : ["context", "id", "kind", "payload", "signal_type", "target"].Nodup := by decide
  exact decode_record distinct
    ((heldBy_field _ rfl (SignalId.decode_encode id)).map mk
      |>.andField rfl (SignalKind.decode_encode kind)
      |>.andField rfl (decode_string type)
      |>.andField rfl (decode_option_string _)
      |>.andField rfl (decode_any payload)
      |>.andField rfl (SignalContext.decode_encode context))

theorem readBack_eq_self_iff {s : Signal} : s.readBack = s ↔ s.context.metadata ≠ some .null := by
  obtain ⟨id, kind, type, target, payload, context⟩ := s
  simp only [readBack, mk.injEq, true_and]
  exact SignalContext.readBack_eq_self_iff

theorem encode_eq_iff {s other : Signal} : s.encode = other.encode ↔ s.readBack = other.readBack := by
  constructor
  · intro same
    have read := s.decode_encode
    rw [same, other.decode_encode] at read
    exact (Except.ok.inj read).symm
  · intro same
    have written (s : Signal) : s.readBack.encode = s.encode := by
      simp only [readBack, encode, SignalContext.encode_readBack]
    rw [← written s, same, written]

end Signal

theorem SignalRecord.decode_encode (r : SignalRecord) :
    r.encode.decode decode = .ok { r with signal := r.signal.readBack } := by
  obtain ⟨signal, status, _ | error⟩ := r
  · have distinct : ["signal", "status"].Nodup := by decide
    exact decode_record distinct
      (((heldBy_field _ rfl (Signal.decode_encode signal)).map mk
        |>.andField rfl (SignalStatus.decode_encode status)).seq (heldBy_withDefault rfl))
  · have distinct : ["error", "signal", "status"].Nodup := by decide
    have found : (Json.option ErrorRecord.encode (some error)).decode (option ErrorRecord.decode) = .ok (some error) :=
      decode_option fun error => ⟨error.encode_ne_null, error.decode_encode⟩
    exact decode_record distinct
      ((heldBy_field _ rfl (Signal.decode_encode signal)).map mk
        |>.andField rfl (SignalStatus.decode_encode status) |>.andField rfl found)

/-- Signals and their records are read as they were written, unless their metadata is set to `null`: that is
read as no metadata, and it is all that two signals with one encoding can differ in. -/
theorem Signal.reads_back_unless_null (s : Signal) (r : SignalRecord) :
    (s.encode.decode decode = .ok s.readBack ∧
      (s.encode.decode decode = .ok s ↔ s.context.metadata ≠ some .null)) ∧
    (r.encode.decode SignalRecord.decode = .ok { r with signal := r.signal.readBack } ∧
      (r.encode.decode SignalRecord.decode = .ok r ↔ r.signal.context.metadata ≠ some .null)) ∧
    ∀ other : Signal, s.encode = other.encode ↔ s.readBack = other.readBack := by
  refine ⟨⟨s.decode_encode, ?_⟩, ⟨r.decode_encode, ?_⟩, fun other => encode_eq_iff⟩
  · rw [s.decode_encode, Except.ok.injEq]
    exact readBack_eq_self_iff
  · obtain ⟨signal, status, error⟩ := r
    rw [SignalRecord.decode_encode, Except.ok.injEq, SignalRecord.mk.injEq]
    exact (and_iff_left ⟨rfl, rfl⟩).trans readBack_eq_self_iff

/-- A command that carries `null` as its metadata comes back without any. -/
theorem Signal.null_metadata_forgotten :
    let plain := Sample.Branch.opening "a"
    let annotated := { plain with context := plain.context.withMetadata .null }
    annotated.encode = plain.encode ∧ annotated.encode.decode decode = .ok plain ∧
      annotated.encode.decode decode ≠ .ok annotated := by
  intro plain annotated
  have different : annotated ≠ plain := by decide
  have read : annotated.encode.decode decode = .ok plain := annotated.decode_encode
  exact ⟨rfl, read, fun same => different (Except.ok.inj (same.symm.trans read))⟩

end Switchboard
