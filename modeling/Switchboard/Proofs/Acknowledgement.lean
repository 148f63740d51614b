import Mathlib.Data.List.Permutation
import Switchboard.Acknowledgement
import Switchboard.Proofs.Json.Scanning
import Switchboard.Proofs.Signal.Encoding

namespace Switchboard

/-! Acknowledgements that are written and read again, with the detail of the status on either side of it. -/

open Decoder Fields

namespace ErrorRecord

theorem readsTexts_decode : decode.ReadsTexts :=
  readsTexts_record _ (((readTexts_field readsTexts_string _ _).map mk).andField readsTexts_string
    |>.andField readsTexts_int32 |>.andField readsTexts_members)

end ErrorRecord

namespace Rejection

@[simp] theorem decode_encode (r : Rejection) : r.encode.decode decode = .ok r := by
  obtain ⟨type, data, message⟩ := r
  have distinct : ["data", "message", "rejection_type"].Nodup := by decide
  exact decode_record distinct
    ((heldBy_field _ rfl (decode_string type)).map mk |>.andField rfl (decode_any data)
      |>.andField rfl (decode_string message))

theorem readsTexts_decode : decode.ReadsTexts :=
  readsTexts_record _ (((readTexts_field readsTexts_string _ _).map mk).andField readsTexts_any
    |>.andField readsTexts_string)

end Rejection

/-- Of two names that an object may hold, those that it holds. -/
theorem filter_either {β : Type} {entries : List (String × β)} (distinct : (entries.map Prod.fst).Nodup)
    {first second : String} (different : first ≠ second) :
    (entries.filter fun entry => entry.1 = first ∨ entry.1 = second).Perm
      (((entries.lookup first).map (first, ·)).toList ++ ((entries.lookup second).map (second, ·)).toList) := by
  induction entries with
  | nil => exact .refl _
  | cons entry rest ih =>
      obtain ⟨key, value⟩ := entry
      obtain ⟨once, later⟩ := List.nodup_cons.mp distinct
      have absent : rest.lookup key = none := List.lookup_eq_none_iff.mpr fun other member =>
        bne_iff_ne.mpr fun same => once (List.mem_map.mpr ⟨other, member, same.symm⟩)
      have rest := ih later
      by_cases former : key = first
      · subst former
        simpa [List.lookup_cons, absent, beq_false_of_ne different.symm] using rest
      · by_cases latter : key = second
        · subst latter
          rw [absent] at rest
          simpa [List.lookup_cons, beq_false_of_ne different] using (rest.cons (key, value)).trans List.perm_middle.symm
        · simpa [List.lookup_cons, former, latter, beq_false_of_ne (Ne.symm former),
            beq_false_of_ne (Ne.symm latter)] using rest

namespace Decoder

variable {α : Type} {values : List (String × α)} {source : Source} {value : α}

theorem mem_of_name (named : name values source = .ok value) : value ∈ values.map Prod.snd := by
  unfold name at named
  split at named
  case h_2 => cases named
  case h_1 =>
    split at named
    case h_2 => cases named
    case h_1 found =>
      cases named
      obtain ⟨before, after, rfl, -⟩ := List.lookup_eq_some_iff.mp found
      simp

theorem mem_of_choice (chosen : choice values source = .ok value) : value ∈ values.map Prod.snd := by
  unfold choice at chosen
  split at chosen
  case h_1 => exact mem_of_name chosen
  case h_2 =>
    obtain ⟨found, named, rest⟩ := bind_eq_ok.mp chosen
    obtain ⟨_, _, same⟩ := bind_eq_ok.mp rest
    cases same
    exact mem_of_name named
  case h_3 => cases chosen
  case h_4 => cases chosen

end Decoder

namespace AckStatus

/-- An object is read by what it holds as status and as detail, whatever else it holds, and in whatever order. -/
theorem decode_object {source : Source} {members : List (String × Source)} {value : AckStatus}
    (view : source.view = .object members) (distinct : (members.map Prod.fst).Nodup)
    (readable : ∀ detail, members.lookup "detail" = some detail → ∃ json, any detail = .ok json) :
    decode source = .ok value ↔ ∃ status, members.lookup "status" = some status ∧
      ∃ finish, choice details status = .ok finish ∧ finish (members.lookup "detail") = .ok value := by
  simp only [decode, view, repeatedName_of_distinct ["status", "detail"] distinct]
  generalize same : members.filter _ = held
  have relevant : held.Perm (((members.lookup "status").map ("status", ·)).toList ++
      ((members.lookup "detail").map ("detail", ·)).toList) := by
    rw [← same]
    exact filter_either distinct (by decide)
  cases status : members.lookup "status" with
  | none =>
      rw [status] at relevant
      cases detail : members.lookup "detail" with
      | none =>
          rw [detail] at relevant
          cases List.perm_nil.mp relevant
          simp
      | some found =>
          rw [detail] at relevant
          cases List.perm_singleton.mp relevant
          simp
  | some named =>
      rw [status] at relevant
      cases detail : members.lookup "detail" with
      | none =>
          rw [detail] at relevant
          cases List.perm_singleton.mp relevant
          simp [bind_eq_ok]
      | some found =>
          -- A detail that comes first is read before its decoder is known.
          have taken : discard (any found) = .ok () := by
            obtain ⟨json, read⟩ := readable found detail
            rw [read]
            rfl
          rw [detail] at relevant
          rcases List.perm_pair.mp relevant with rfl | rfl
          · simp [bind_eq_ok]
          · simp [bind_eq_ok, taken]

/-- The detail of a status may be read from a text as well, and so may its absence. -/
theorem details_told {finish : Option Source → Except DecodeError AckStatus} (among : finish ∈ details.map Prod.snd)
    {own text : Option Source} {value : AckStatus} (told : Option.Rel Source.Tells own text)
    (read : finish own = .ok value) : finish text = .ok value := by
  cases told with
  | none => exact read
  | some tells =>
      obtain ⟨stands⟩ := tells
      simp only [details, List.map_cons, List.map_nil, List.mem_cons, List.not_mem_nil, or_false] at among
      rcases among with rfl | rfl | rfl
      · exact ((readsTexts_nothing "no detail").map fun _ => AckStatus.ok).read stands read
      · exact (ErrorRecord.readsTexts_decode.map AckStatus.error).read stands read
      · exact (Rejection.readsTexts_decode.map AckStatus.rejection).read stands read

theorem readsTexts_decode : decode.ReadsTexts := by
  refine readsTexts_of_parts (fun same => by rw [decode, decode, same]) ?_ ?_
  · intro items values value each read
    match each with
    | .cons status (.cons detail .nil) =>
        obtain ⟨finish, named, read⟩ := bind_eq_ok.mp read
        exact bind_eq_ok.mpr ⟨finish, (readsTexts_name details).read status named,
          details_told (mem_of_name named) (.some ⟨detail⟩) read⟩
    | .nil => cases read
    | .cons _ .nil => cases read
    | .cons _ (.cons _ (.cons _ _)) => cases read
  · intro parts entries value distinct once denoted read
    obtain ⟨ordered, told⟩ := Places.lookup_ordered once denoted
    have keys : ((parts.map fun part => (part.1, Source.scanned part.2)).map Prod.fst).Nodup := by
      rwa [List.map_map]
    obtain ⟨readable, scannable⟩ := Source.any_of_told (told "detail")
    obtain ⟨own, found, finish, named, read⟩ := (decode_object rfl ordered readable).mp read
    obtain ⟨status, there, named'⟩ := (readsTexts_choice details).told (told "status") found named
    exact (decode_object rfl keys scannable).mpr
      ⟨status, there, finish, named', details_told (mem_of_choice named) (told "detail") read⟩

theorem decode_detail {name : String} {detail : Json} {finish : Option Source → Except DecodeError AckStatus}
    {value : AckStatus} (chosen : (Json.string name).decode (choice details) = .ok finish)
    (read : finish (some (.value detail)) = .ok value) :
    (Json.object [("detail", detail), ("status", .string name)]).decode decode = .ok value := by
  have view : (Source.value (.object [("detail", detail), ("status", .string name)])).view =
      .object [("detail", .value detail), ("status", .value (.string name))] := rfl
  have distinct : ["detail", "status"].Nodup := by decide
  refine (decode_object view distinct fun source held => ?_).mpr ⟨.value (.string name), rfl, finish, chosen, read⟩
  cases held
  exact ⟨detail, rfl⟩

@[simp] theorem decode_encode (s : AckStatus) : s.encode.decode decode = .ok s := by
  cases s with
  | ok => rfl
  | error record => exact decode_detail rfl (congrArg (Except.map error) record.decode_encode)
  | rejection reason => exact decode_detail rfl (congrArg (Except.map rejection) reason.decode_encode)

end AckStatus

theorem SignalId.readsTexts_decode : decode.ReadsTexts :=
  (readsTexts_of_view (fun same => by rw [Decoder.uuid, Decoder.uuid, same]) (by simp [Decoder.uuid, Source.view])
    (by simp [Decoder.uuid, Source.view])).map mk

namespace Ack

theorem decode_encode (a : Ack) : a.encode.decode decode = .ok a := by
  obtain ⟨id, status⟩ := a
  have distinct : ["signal_id", "status"].Nodup := by decide
  exact decode_record distinct
    ((heldBy_field _ rfl id.decode_encode).map mk |>.andField rfl status.decode_encode)

theorem readsTexts_decode : decode.ReadsTexts :=
  readsTexts_record _ (((readTexts_field SignalId.readsTexts_decode _ _).map mk).andField AckStatus.readsTexts_decode)

end Ack

end Switchboard
