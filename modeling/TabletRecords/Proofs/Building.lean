import TabletRecords.Autoincrement.Advance
import TabletRecords.Binding.Hidden
import TabletRecords.Compaction.Schedule
import TabletRecords.Proofs.Charging
import TabletRecords.Schema.Build

/-!
Building values. Each value that owns lists is held against its arena from the moment it is made,
and the sequences that are made name no column twice.
-/
namespace TabletRecords

open Arena (ArenaId Ledger)
open Charging Outcome

variable {arena : ArenaId} {before after : Ledger}

namespace Autoincrement.Sequence

theorem ofIntervals_eq_ok_iff {intervals : List Interval} {held : Held Sequence} :
    ofIntervals intervals arena before = .ok held after ↔
      (mk intervals).isValid ∧ held = ⟨⟨intervals⟩, some arena⟩ ∧ ∃ account,
        (before.account arena).chargeAll (format.charges ⟨intervals⟩) = .ok account ∧
          after = before.set arena account :=
  holding_checked_eq_ok_iff

theorem ofIntervals_accounts (intervals : List Interval) (arena : ArenaId) :
    Accounts (ofIntervals intervals arena) (·.charges format) [] :=
  holding_checked_accounts _ _ _

theorem columns_setNext (intervals : List Interval) (columnId nextValue : UInt64) :
    columns ⟨setNext intervals columnId nextValue⟩ = columns ⟨intervals⟩ := by
  unfold columns setNext
  rw [List.map_map]
  apply List.map_congr_left
  intro interval _
  simp only [Function.comp]
  split
  · next same => exact same.symm
  · rfl

theorem not_mem_columns_of_next? {sequence : Sequence} {columnId : UInt64}
    (unknown : sequence.next? columnId = none) : columnId ∉ sequence.columns := by
  intro named
  obtain ⟨interval, mem, same⟩ := List.mem_map.mp named
  have missed := List.find?_eq_none.mp (Option.map_eq_none_iff.mp unknown) interval mem
  simp [same] at missed

theorem isValid_of_advance {sequence advanced : Sequence} {columnId nextValue : UInt64}
    (valid : sequence.isValid) (done : sequence.advance columnId nextValue = .ok advanced) :
    advanced.isValid := by
  simp only [isValid, decide_eq_true_eq] at valid ⊢
  unfold advance at done
  cases known : sequence.next? columnId with
  | none =>
    simp only [known] at done
    cases done
    have unknown := not_mem_columns_of_next? known
    show (List.map _ (_ ++ _)).Nodup
    rw [List.map_append, List.nodup_append]
    refine ⟨valid, by simp, ?_⟩
    intro other mem last added same
    rw [List.map_singleton, List.mem_singleton] at added
    rw [same, added] at mem
    exact unknown mem
  | some current =>
    simp only [known] at done
    split at done <;> cases done
    rwa [columns_setNext]

theorem withNext_eq_ok_iff {sequence : Sequence} {columnId nextValue : UInt64}
    {held : Held Sequence} :
    sequence.withNext columnId nextValue arena before = .ok held after ↔
      ∃ advanced, sequence.advance columnId nextValue = .ok advanced ∧
        held = ⟨advanced, some arena⟩ ∧ ∃ account,
          (before.account arena).chargeAll (format.charges advanced) = .ok account ∧
            after = before.set arena account := by
  simp only [withNext, bind_eq_ok_iff, ofExcept_eq_ok_iff, hold_eq_ok_iff]
  constructor
  · rintro ⟨advanced, _, ⟨done, rfl⟩, held⟩
    exact ⟨advanced, done, held⟩
  · rintro ⟨advanced, done, held⟩
    exact ⟨advanced, _, ⟨done, rfl⟩, held⟩

theorem withNext_accounts (sequence : Sequence) (columnId nextValue : UInt64) (arena : ArenaId) :
    Accounts (sequence.withNext columnId nextValue arena) (·.charges format) [] :=
  .ofExcept_bind fun advanced => hold_accounts advanced arena

end Autoincrement.Sequence

namespace Binding

theorem setHidden_accounts (binding : Held Binding) (ids : List TabletId) (arena : ArenaId) :
    Accounts (setHidden binding ids arena) (·.charges format) (binding.charges format) :=
  .ofExcept_bind fun changed => replace_accounts binding changed arena

theorem payer_of_setHidden {binding held : Held Binding} {ids : List TabletId}
    (done : setHidden binding ids arena before = .ok held after) : held.payer = some arena := by
  obtain ⟨changed, _, -, done⟩ := bind_eq_ok_iff.mp done
  obtain ⟨rfl, -⟩ := replace_eq_ok_iff.mp done
  rfl

end Binding

namespace CompactionQueue

theorem schedule_accounts (queue : Held CompactionQueue) (compaction : Compaction)
    (arena : ArenaId) :
    Accounts (schedule queue compaction arena) (·.charges format) (queue.charges format) :=
  .ofExcept_bind fun longer => replace_accounts queue longer arena

theorem payer_of_schedule {queue held : Held CompactionQueue} {compaction : Compaction}
    (done : schedule queue compaction arena before = .ok held after) : held.payer = some arena := by
  obtain ⟨longer, _, -, done⟩ := bind_eq_ok_iff.mp done
  obtain ⟨rfl, -⟩ := replace_eq_ok_iff.mp done
  rfl

end CompactionQueue

namespace StorageSchema

theorem ofColumns_eq_ok_iff {schemaVersion : Int64} {compatMode : CompatMode}
    {rowkeyColumns : List RowkeyColumn} {columns : List Column} {held : Held StorageSchema} :
    ofColumns schemaVersion compatMode rowkeyColumns columns arena before = .ok held after ↔
      let schema := { blank with schemaVersion, compatMode, rowkeyColumns, columns }
      schema.isValid ∧ held = ⟨schema, some arena⟩ ∧ ∃ account,
        (before.account arena).chargeAll (format.charges schema) = .ok account ∧
          after = before.set arena account :=
  holding_checked_eq_ok_iff

theorem ofColumns_accounts (schemaVersion : Int64) (compatMode : CompatMode)
    (rowkeyColumns : List RowkeyColumn) (columns : List Column) (arena : ArenaId) :
    Accounts (ofColumns schemaVersion compatMode rowkeyColumns columns arena) (·.charges format) [] :=
  holding_checked_accounts _ _ _

end StorageSchema

end TabletRecords
