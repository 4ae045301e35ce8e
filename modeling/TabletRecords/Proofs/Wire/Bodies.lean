import TabletRecords.Proofs.Wire.Parts
import TabletRecords.Snapshot.Basic

/-!
The bodies of the two records. Both formats are lawful. The size of a body, and what its lists
charge, depend on nothing but the lengths of its lists and on which watermarks are there.
-/
namespace TabletRecords

open Arena (total listCharges)
open Wire (Format)

theorem Wire.Format.counted_size {α : Type} {format : Format α} (each : Nat)
    (fixed : ∀ value, format.size value = each) (least memory : Nat) (items : List α) :
    (format.counted least memory).size items = 4 + items.length * each := by
  show 4 + total (items.map format.size) = _
  congr 1
  induction items with
  | nil => simp
  | cons item items ih =>
    rw [List.map_cons, Arena.total_cons, ih, fixed, List.length_cons, Nat.succ_mul, Nat.add_comm]

theorem Wire.Format.optional_size {α : Type} {format : Format α} (each : Nat)
    (fixed : ∀ value, format.size value = each) (value? : Option α) :
    format.optional.size value? = 1 + if value?.isSome then each else 0 := by
  cases value? with
  | none => rfl
  | some value => exact congrArg (1 + ·) (fixed value)

theorem Wire.Format.optional_charges {α : Type} {format : Format α}
    (uncharged : ∀ value, format.charges value = []) (value? : Option α) :
    format.optional.charges value? = [] := by
  cases value? with
  | none => rfl
  | some value => exact uncharged value

theorem Autoincrement.Sequence.size_eq (sequence : Sequence) :
    format.size sequence = 4 + sequence.intervals.length * 16 :=
  Format.counted_size 16 (fun _ => rfl) 16 16 _

theorem Binding.size_eq (binding : Binding) :
    format.size binding = 45 + binding.hiddenTabletIds.length * 8 := by
  show 1 + (8 + (8 + (8 + (8 + (8 + (TabletId.format.counted 8 8).size
    binding.hiddenTabletIds))))) = _
  rw [Format.counted_size 8 (fun _ => rfl)]
  omega

theorem StorageSchema.size_eq (schema : StorageSchema) :
    format.size schema =
      74 + schema.rowkeyColumns.length * 10 + schema.columns.length * 10 := by
  show 4 + (8 + (1 + (1 + (1 + (1 + (1 + (8 + (8 + (8 + (8 + (8 + (8 + (1 +
    ((RowkeyColumn.format.counted 10 16).size schema.rowkeyColumns +
      (Column.format.counted 10 16).size schema.columns)))))))))))))) = _
  rw [Format.counted_size 10 (fun _ => rfl), Format.counted_size 10 (fun _ => rfl)]
  omega

theorem CompactionQueue.size_eq (queue : CompactionQueue) :
    format.size queue = 14 + queue.pending.length * 26 := by
  show 1 + (8 + (1 + (Compaction.format.counted 26 32).size queue.pending)) = _
  rw [Format.counted_size 26 (fun _ => rfl)]
  omega

/-! What lists hold: their lengths times the size of an element in memory. -/

theorem Autoincrement.Sequence.footprint_eq (sequence : Sequence) :
    format.footprint sequence = sequence.intervals.length * 16 :=
  Arena.total_listCharges _ _

theorem Binding.footprint_eq (binding : Binding) :
    format.footprint binding = binding.hiddenTabletIds.length * 8 :=
  Arena.total_listCharges _ _

theorem StorageSchema.footprint_eq (schema : StorageSchema) :
    format.footprint schema = schema.rowkeyColumns.length * 16 + schema.columns.length * 16 := by
  show total (listCharges _ 16 ++ listCharges _ 16) = _
  rw [Arena.total_append, Arena.total_listCharges, Arena.total_listCharges]

theorem CompactionQueue.footprint_eq (queue : CompactionQueue) :
    format.footprint queue = queue.pending.length * 32 :=
  Arena.total_listCharges _ _

namespace DescriptorBody

structure Legal (body : DescriptorBody) : Prop where
  autoincrement : body.autoincrement.Legal
  binding : body.binding.Legal

theorem format_lawful : format.Lawful Legal := by
  refine ((LogStreamId.format_lawful.pair <| TabletId.format_lawful.pair <|
    TabletId.format_lawful.pair <| TabletId.format_lawful.pair <| Format.bool_lawful.pair <|
    Scn.format_lawful.pair <| Scn.format_lawful.pair <| Scn.format_lawful.pair <|
    Scn.format_lawful.pair <| Scn.format_lawful.pair <| Format.int64_lawful.pair <|
    Format.int64_lawful.pair <| Format.int64_lawful.pair <| Format.tagged_lawful.pair <|
    Autoincrement.Sequence.format_lawful.pair <| Readiness.format_lawful.pair <|
    ReportStatus.format_lawful.pair <| TransactionState.format_lawful.pair <|
    Binding.format_lawful.pair <| StoreFlag.format_lawful.pair Format.int64_lawful).map _ _
      (fun _ => rfl) (fun _ => rfl)).congr ?_
  intro body
  simp only [true_and, and_true]
  exact ⟨fun ⟨autoincrement, binding⟩ => ⟨autoincrement, binding⟩,
    fun ⟨autoincrement, binding⟩ => ⟨autoincrement, binding⟩⟩

theorem size_eq (body : DescriptorBody) :
    format.size body = 220 + body.autoincrement.intervals.length * 16 +
      body.binding.hiddenTabletIds.length * 8 := by
  show 8 + (8 + (8 + (8 + (1 + (8 + (8 + (8 + (8 + (8 + (8 + (8 + (8 + (1 +
    (Autoincrement.Sequence.format.size body.autoincrement + (8 + ((8 + (8 + (8 + 8))) +
      ((8 + (8 + 1)) + (Binding.format.size body.binding + (8 + 8))))))))))))))))))) = _
  rw [Autoincrement.Sequence.size_eq, Binding.size_eq]
  omega

theorem charges_eq (body : DescriptorBody) :
    format.charges body =
      Autoincrement.Sequence.format.charges body.autoincrement ++
        Binding.format.charges body.binding := by
  show Autoincrement.Sequence.format.charges body.autoincrement ++
    (Binding.format.charges body.binding ++ []) = _
  rw [List.append_nil]

theorem footprint_eq (body : DescriptorBody) :
    format.footprint body = body.autoincrement.intervals.length * 16 +
      body.binding.hiddenTabletIds.length * 8 := by
  rw [Format.footprint, charges_eq, Arena.total_append, ← Autoincrement.Sequence.footprint_eq,
    ← Binding.footprint_eq]
  rfl

theorem room_iff {body : DescriptorBody} {used limit : Nat} :
    used + format.footprint body ≤ limit ↔
      used + 16 * body.autoincrement.intervals.length + 8 * body.binding.hiddenTabletIds.length ≤
        limit := by
  rw [footprint_eq]
  omega

end DescriptorBody

namespace Snapshot

structure Legal (snapshot : Snapshot) : Prop where
  autoincrement : snapshot.autoincrement.Legal
  binding : snapshot.binding.Legal
  schema : snapshot.schema.Legal
  compactions : snapshot.compactions.Legal

theorem format_lawful : format.Lawful Legal := by
  refine ((LogStreamId.format_lawful.pair <| TabletId.format_lawful.pair <|
    TabletId.format_lawful.pair <| TabletId.format_lawful.pair <| Scn.format_lawful.pair <|
    Scn.format_lawful.pair <| Scn.format_lawful.pair <| Scn.format_lawful.optional.pair <|
    Scn.format_lawful.optional.pair <| Format.int64_lawful.optional.pair <|
    Format.int64_lawful.pair <| Format.int64_lawful.pair <| Format.tagged_lawful.pair <|
    Autoincrement.Sequence.format_lawful.pair <| Readiness.format_lawful.pair <|
    ReportStatus.format_lawful.pair <| TransactionState.format_lawful.pair <|
    Binding.format_lawful.pair <| StorageSchema.format_lawful.pair <|
    CompactionQueue.format_lawful.pair <| StoreFlag.format_lawful.pair Format.int64_lawful).map
      _ _ (fun _ => rfl) (fun _ => rfl)).congr ?_
  intro snapshot
  simp only [true_and, and_true, implies_true]
  exact ⟨fun ⟨autoincrement, binding, schema, compactions⟩ =>
      ⟨autoincrement, binding, schema, compactions⟩,
    fun ⟨autoincrement, binding, schema, compactions⟩ =>
      ⟨autoincrement, binding, schema, compactions⟩⟩

theorem size_eq (snapshot : Snapshot) :
    format.size snapshot = 286 +
      (if snapshot.ddlCheckpoint?.isSome then 8 else 0) +
      (if snapshot.ddlStartLog?.isSome then 8 else 0) +
      (if snapshot.ddlSnapshotVersion?.isSome then 8 else 0) +
      snapshot.autoincrement.intervals.length * 16 +
      snapshot.binding.hiddenTabletIds.length * 8 +
      snapshot.schema.rowkeyColumns.length * 10 + snapshot.schema.columns.length * 10 +
      snapshot.compactions.pending.length * 26 := by
  show 8 + (8 + (8 + (8 + (8 + (8 + (8 + 
    (Scn.format.optional.size snapshot.ddlCheckpoint? +
      (Scn.format.optional.size snapshot.ddlStartLog? +
        (Format.int64.optional.size snapshot.ddlSnapshotVersion? + (8 + (8 + (1 +
          (Autoincrement.Sequence.format.size snapshot.autoincrement + (8 +
            ((8 + (8 + (8 + 8))) + ((8 + (8 + 1)) + (Binding.format.size snapshot.binding +
              (StorageSchema.format.size snapshot.schema +
                (CompactionQueue.format.size snapshot.compactions +
                  (8 + 8)))))))))))))))))))) = _
  rw [Format.optional_size 8 (fun _ => rfl), Format.optional_size 8 (fun _ => rfl),
    Format.optional_size 8 (fun _ => rfl), Autoincrement.Sequence.size_eq, Binding.size_eq,
    StorageSchema.size_eq, CompactionQueue.size_eq]
  omega

theorem charges_eq (snapshot : Snapshot) :
    format.charges snapshot =
      Autoincrement.Sequence.format.charges snapshot.autoincrement ++
        (Binding.format.charges snapshot.binding ++
          (StorageSchema.format.charges snapshot.schema ++
            CompactionQueue.format.charges snapshot.compactions)) := by
  have scn : ∀ scn?, Scn.format.optional.charges scn? = [] :=
    Format.optional_charges (fun _ => rfl)
  have word : ∀ word?, Format.int64.optional.charges word? = [] :=
    Format.optional_charges (fun _ => rfl)
  show Scn.format.optional.charges snapshot.ddlCheckpoint? ++
    (Scn.format.optional.charges snapshot.ddlStartLog? ++
      (Format.int64.optional.charges snapshot.ddlSnapshotVersion? ++
        (Autoincrement.Sequence.format.charges snapshot.autoincrement ++
          (Binding.format.charges snapshot.binding ++
            (StorageSchema.format.charges snapshot.schema ++
              (CompactionQueue.format.charges snapshot.compactions ++ [])))))) = _
  simp only [scn, word, List.nil_append, List.append_nil]

theorem footprint_eq (snapshot : Snapshot) :
    format.footprint snapshot =
      Autoincrement.Sequence.format.footprint snapshot.autoincrement +
        (Binding.format.footprint snapshot.binding +
          (StorageSchema.format.footprint snapshot.schema +
            CompactionQueue.format.footprint snapshot.compactions)) := by
  rw [Format.footprint, charges_eq, Arena.total_append, Arena.total_append, Arena.total_append]
  rfl

theorem footprint_eq_lengths (snapshot : Snapshot) :
    format.footprint snapshot =
      snapshot.autoincrement.intervals.length * 16 + snapshot.binding.hiddenTabletIds.length * 8 +
        snapshot.schema.rowkeyColumns.length * 16 + snapshot.schema.columns.length * 16 +
        snapshot.compactions.pending.length * 32 := by
  rw [footprint_eq, Autoincrement.Sequence.footprint_eq, Binding.footprint_eq,
    StorageSchema.footprint_eq, CompactionQueue.footprint_eq]
  omega

/-- The memory of the lists of a snapshot, in the order of the wire. -/
def listMemory (snapshot : Snapshot) : List Nat :=
  [16 * snapshot.autoincrement.intervals.length, 8 * snapshot.binding.hiddenTabletIds.length,
    16 * snapshot.schema.rowkeyColumns.length, 16 * snapshot.schema.columns.length,
    32 * snapshot.compactions.pending.length]

theorem footprint_eq_total (snapshot : Snapshot) :
    format.footprint snapshot = total snapshot.listMemory := by
  rw [footprint_eq_lengths]
  simp only [listMemory, Arena.total_cons, Arena.total_nil]
  omega

theorem charges_eq_listMemory (snapshot : Snapshot) :
    format.charges snapshot = snapshot.listMemory.filter (· ≠ 0) := by
  have list : ∀ count size, size ≠ 0 →
      Arena.listCharges count size = [size * count].filter (· ≠ 0) := by
    intro count size nonzero
    by_cases empty : count = 0
    · simp [Arena.listCharges, empty]
    · have product : size * count ≠ 0 := Nat.mul_ne_zero nonzero empty
      rw [Arena.listCharges, if_neg empty, List.filter_cons_of_pos (by simpa using product),
        Nat.mul_comm]
      rfl
  rw [charges_eq]
  show Arena.listCharges _ 16 ++ (Arena.listCharges _ 8 ++
    ((Arena.listCharges _ 16 ++ Arena.listCharges _ 16) ++ Arena.listCharges _ 32)) = _
  rw [list _ 16 (by decide), list _ 8 (by decide), list _ 16 (by decide), list _ 16 (by decide),
    list _ 32 (by decide)]
  simp only [← List.filter_append]
  rfl

theorem chargeAll_charges {account : Arena.Account} (within : account.used ≤ account.limit)
    (snapshot : Snapshot) :
    account.chargeAll (format.charges snapshot) = account.chargeAll snapshot.listMemory := by
  rw [charges_eq_listMemory, Arena.Account.chargeAll_filter_ne_zero within]

theorem chargeAll_charges_eq_ok_iff {account after : Arena.Account}
    (within : account.used ≤ account.limit) {snapshot : Snapshot} :
    account.chargeAll (format.charges snapshot) = .ok after ↔
      account.used + total snapshot.listMemory ≤ account.limit ∧
        after = { account with used := account.used + total snapshot.listMemory } := by
  have lists : snapshot.listMemory ≠ [] := List.cons_ne_nil _ _
  rw [chargeAll_charges within, Arena.Account.chargeAll_eq_ok_iff, or_iff_right lists]

theorem chargeAll_charges_eq_error {account : Arena.Account}
    (within : account.used ≤ account.limit) {snapshot : Snapshot}
    (full : account.limit < account.used + total snapshot.listMemory) :
    ∃ earlier size later, snapshot.listMemory = earlier ++ size :: later ∧
      account.used + total earlier ≤ account.limit ∧
      account.limit < account.used + total earlier + size ∧
      account.chargeAll (format.charges snapshot) =
        .error ⟨account.label, size, account.used + total earlier, account.limit⟩ := by
  cases charged : account.chargeAll (format.charges snapshot) with
  | ok after =>
    have room := ((chargeAll_charges_eq_ok_iff within).mp charged).1
    exact absurd room (Nat.not_le.mpr full)
  | error refusal =>
    rw [chargeAll_charges within] at charged
    obtain ⟨earlier, size, later, split, room, beyond, rfl⟩ :=
      Arena.Account.chargeAll_eq_error_iff.mp charged
    refine ⟨earlier, size, later, split, ?_, beyond, rfl⟩
    rcases room with rfl | room
    · exact within
    · exact room

end Snapshot

end TabletRecords
