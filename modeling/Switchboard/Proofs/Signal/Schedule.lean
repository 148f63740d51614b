import Mathlib.Data.List.Nodup
import Switchboard.Proofs.Signal.StoreView
import Switchboard.Proofs.Table

namespace Switchboard

/-! What is scheduled in a ledger, and in which order it is listed. -/

namespace SignalRecords

variable {records : SignalRecords}

/-- Every record stands under the id of its signal. -/
def Indexed (records : SignalRecords) : Prop := ∀ id r, records id = some r → r.signal.id = id

/-- The signal waits to be claimed. -/
def Scheduled (records : SignalRecords) (signal : Signal) : Prop :=
  ∃ r, records signal.id = some r ∧ r.signal = signal ∧ r.status = .scheduled

theorem Indexed.write (indexed : records.Indexed) (call : Call) : (call.write records).Indexed := by
  intro id r found
  rcases call.write_cases id with same | ⟨signal, status, error, named, saved⟩ | claimed
  · rw [same] at found
    exact indexed id r found
  · rw [saved, Option.some.injEq] at found
    rw [← found, named]
  · rw [claimed, Option.map_eq_some_iff] at found
    obtain ⟨before, found, rfl⟩ := found
    exact indexed id before found

/-- A store that is only written through its calls keeps its records where they belong. -/
theorem Indexed.after (indexed : records.Indexed) (calls : List Call) : (records.after calls).Indexed := by
  induction calls generalizing records with
  | nil => exact indexed
  | cons call rest ih => exact ih (indexed.write call)

end SignalRecords

namespace SignalLedger

variable {l : SignalLedger}

theorem isEarlier_iff (first second : Signal) : isEarlier first second = true ↔
    first.context.deliverAt < second.context.deliverAt ∨
      first.context.deliverAt = second.context.deliverAt ∧
        first.context.timestamp ≤ second.context.timestamp := by
  simp [isEarlier]

theorem mem_scheduled (indexed : SignalRecords.Indexed l.record?) (signal : Signal) :
    signal ∈ l.scheduled ↔ SignalRecords.Scheduled l.record? signal := by
  rw [scheduled, List.mem_mergeSort, List.mem_map]
  constructor
  · rintro ⟨r, listed, rfl⟩
    obtain ⟨among, status⟩ := List.mem_filter.mp listed
    obtain ⟨id, found⟩ := Table.mem_values.mp among
    obtain rfl := indexed id r found
    exact ⟨r, found, rfl, by simpa using status⟩
  · rintro ⟨r, found, same, status⟩
    exact ⟨r, List.mem_filter.mpr ⟨Table.mem_values.mpr ⟨_, found⟩, by simpa using status⟩, same⟩

theorem scheduled_distinct (indexed : SignalRecords.Indexed l.record?) : (l.scheduled.map (·.id)).Nodup := by
  -- the ids are the keys of the entries that are listed
  have keys : ∀ entry ∈ l.records.entries, entry.2.signal.id = entry.1 :=
    fun entry member => indexed entry.1 entry.2 (Table.find?_of_mem member)
  have same : (l.withStatus .scheduled).map (·.signal.id) =
      (l.records.entries.filter fun entry => entry.2.status = .scheduled).map Prod.fst := by
    rw [withStatus, Table.values, List.filter_map, List.map_map]
    exact List.map_congr_left fun entry listed => keys entry (List.mem_filter.mp listed).1
  rw [scheduled, ((List.mergeSort_perm _ _).map _).nodup_iff, List.map_map]
  exact same ▸ l.records.distinct.sublist (List.filter_sublist.map _)

theorem scheduled_sorted (l : SignalLedger) :
    l.scheduled.Pairwise fun first second => isEarlier first second = true := by
  apply List.pairwise_mergeSort
  · intro a b c
    simp only [isEarlier_iff]
    grind
  · intro a b
    simp only [Bool.or_eq_true, isEarlier_iff]
    grind

theorem withStatus_of_scheduled (idle : l.scheduled = []) : l.withStatus .scheduled = [] := by
  have shuffled : ((l.withStatus .scheduled).map (·.signal)).Perm l.scheduled := (List.mergeSort_perm _ _).symm
  rw [idle, List.perm_nil, List.map_eq_nil_iff] at shuffled
  exact shuffled

/-- A signal that is saved is the only one scheduled, if it is scheduled and no other one is. -/
theorem scheduled_save (idle : l.scheduled = []) (signal : Signal) (status : SignalStatus)
    (error : Option ErrorRecord) :
    (l.save signal status error).scheduled = if status = .scheduled then [signal] else [] := by
  have listed := Table.filter_insert (withStatus_of_scheduled idle) signal.id ⟨signal, status, error⟩
  rw [scheduled, withStatus, save, listed]
  by_cases same : status = .scheduled <;> simp [same]

theorem claim_saved (l : SignalLedger) (signal : Signal) :
    (l.save signal .scheduled none).claim signal.id = (true, l.save signal .received none) := by
  have found : (l.save signal .scheduled none).record? signal.id = some ⟨signal, .scheduled, none⟩ := by
    rw [record?_save, Function.update_self]
  rw [claim, found]
  simp only [if_true, save, Table.insert_insert]

end SignalLedger

end Switchboard
