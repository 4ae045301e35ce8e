import TabletRecords.Proofs.Wire.Bodies
import TabletRecords.Proofs.Wire.Framing

/-!
Refused reads. Where the bytes of a legal value stand but its lists do not fit, the read fails as
the account does, at the first list that is too much, and never in another way. Formats without
lists are never refused, and every way to compose formats keeps the law.
-/
namespace TabletRecords.Wire

open Arena (Account Exhausted listCharges)
open Outcome

namespace Intake

theorem charge_eq_error {size : Nat} {before : IntakeState} {refusal : Exhausted}
    (refused : before.account.charge size = .error refusal) :
    charge size before = .error (.arena refusal) before := by
  simp only [charge, refused]

theorem forM_charge_eq_error {sizes : List Nat} {before : IntakeState} {refusal : Exhausted}
    (refused : before.account.chargeAll sizes = .error refusal) :
    ∃ after, sizes.forM charge before = .error (.arena refusal) after := by
  induction sizes generalizing before with
  | nil => cases refused
  | cons size sizes ih =>
    rw [← List.singleton_append, Account.chargeAll_append_eq_error_iff,
      Account.chargeAll_singleton] at refused
    show ∃ after, (do charge size; sizes.forM charge) before = .error (.arena refusal) after
    rcases refused with refused | ⟨account, charged, refused⟩
    · exact ⟨_, bind_eq_of_error (charge_eq_error refused)⟩
    · let middle : IntakeState := { before with account, charged := before.charged + size }
      have done : charge size before = .ok () middle := by simp only [charge, charged, middle]
      have later : middle.account.chargeAll sizes = .error refusal := refused
      obtain ⟨after, failed⟩ := ih later
      exact ⟨after, (bind_eq_of_ok done).trans failed⟩

end Intake

namespace Format

variable {α β : Type} {format : Format α} {second : Format β} {legal : α → Prop}
  {legal₂ : β → Prop}

/-- A format whose reads fail as the account does, where the bytes of a legal value stand and its
lists do not fit. -/
structure Refuses (format : Format α) (legal : α → Prop) : Prop where
  read_eq_error : ∀ {value before cursor refusal}, legal value →
    before.cursor.Passes (format.bytes value) cursor →
    before.account.chargeAll (format.charges value) = .error refusal →
      ∃ after, format.read before = .error (.arena refusal) after

theorem refuses_of_uncharged (uncharged : ∀ value, format.charges value = []) :
    format.Refuses legal := by
  constructor
  intro value before cursor refusal _ _ refused
  rw [uncharged] at refused
  cases refused

namespace Refuses

theorem pair (refuses : format.Refuses legal) (lawful : format.Lawful legal)
    (refuses₂ : second.Refuses legal₂) :
    (format.pair second).Refuses (fun value => legal value.1 ∧ legal₂ value.2) := by
  constructor
  rintro ⟨first, next⟩ before cursor refusal ⟨hlegal, hlegal₂⟩ passes refused
  obtain ⟨middle, passes, passes₂⟩ := Cursor.passes_append.mp passes
  rcases Account.chargeAll_append_eq_error_iff.mp refused with refused | ⟨account, charged, refused⟩
  · obtain ⟨after, failed⟩ := refuses.read_eq_error hlegal passes refused
    exact ⟨after, bind_eq_of_error failed⟩
  · let between : IntakeState := ⟨middle, account, before.charged + format.footprint first⟩
    have taken : format.read before = .ok first between :=
      lawful.read_eq_ok_iff.mpr ⟨hlegal, passes, charged, rfl⟩
    have passes₂ : between.cursor.Passes (second.bytes next) cursor := passes₂
    obtain ⟨after, failed⟩ := refuses₂.read_eq_error hlegal₂ passes₂ refused
    exact ⟨after, (bind_eq_of_ok taken).trans (bind_eq_of_error failed)⟩

theorem behind (lawful : format.Lawful legal) (uncharged : ∀ value, format.charges value = [])
    (refuses₂ : second.Refuses legal₂) :
    (format.pair second).Refuses (fun value => legal value.1 ∧ legal₂ value.2) :=
  (refuses_of_uncharged uncharged).pair lawful refuses₂

theorem refine (refuses : format.Refuses legal) (accept : α → Except Error β) (stored : β → α) :
    (format.refine accept stored).Refuses (fun value => legal (stored value)) := by
  constructor
  intro value before cursor refusal hlegal passes refused
  obtain ⟨after, failed⟩ := refuses.read_eq_error hlegal passes refused
  exact ⟨after, bind_eq_of_error failed⟩

theorem map (refuses : format.Refuses legal) (pack : α → β) (unpack : β → α) :
    (format.map pack unpack).Refuses (fun value => legal (unpack value)) :=
  refuses.refine _ unpack

theorem mono {legal' : α → Prop} (refuses : format.Refuses legal)
    (weaker : ∀ value, legal' value → legal value) : format.Refuses legal' :=
  ⟨fun hlegal => refuses.read_eq_error (weaker _ hlegal)⟩

end Refuses

theorem Lawful.refuses_counted (lawful : format.Lawful legal) (least memory : Nat)
    (uncharged : ∀ value, format.charges value = [])
    (least_le : ∀ value, legal value → least ≤ format.size value) :
    (format.counted least memory).Refuses
      (fun items => items.length < BigEndian.capacity 4 ∧ ∀ item ∈ items, legal item) := by
  constructor
  rintro items before cursor refusal ⟨small, hlegal⟩ passes refused
  let read : IntakeState := { before with cursor }
  have refused : read.account.chargeAll (listCharges items.length memory) = .error refusal := refused
  obtain ⟨after, failed⟩ := Intake.forM_charge_eq_error refused
  rw [counted_read_of_passes lawful uncharged least_le small hlegal passes]
  exact ⟨after, bind_eq_of_error failed⟩

end Format

theorem Record.body_eq_error {α : Type} {format : Format α} {legal : α → Prop}
    (refuses : format.Refuses legal) {value : α} (hlegal : legal value) {account : Account}
    {refusal : Exhausted}
    (refused : account.chargeAll (format.charges value) = .error refusal) :
    ∃ after, body format { cursor := .start (format.bytes value), account } =
      .error (.arena refusal) after := by
  let start : IntakeState := { cursor := .start (format.bytes value), account }
  have passes : start.cursor.Passes (format.bytes value) ⟨[], 0 + (format.bytes value).length⟩ :=
    ⟨by simp [start, Cursor.start], rfl⟩
  have refused : start.account.chargeAll (format.charges value) = .error refusal := refused
  obtain ⟨after, failed⟩ := refuses.read_eq_error hlegal passes refused
  exact ⟨after, bind_eq_of_error failed⟩

end TabletRecords.Wire

namespace TabletRecords

open Wire (Format)
open Wire.Format (Refuses refuses_of_uncharged)

theorem Autoincrement.Sequence.format_refuses : Sequence.format.Refuses Sequence.Legal := by
  refine ((Interval.format_lawful.refuses_counted 16 16 (fun _ => rfl)
    (fun _ _ => Nat.le_refl 16)).refine _ _).mono fun sequence legal => ?_
  exact ⟨legal.length_lt, by simp⟩

theorem Binding.format_refuses : format.Refuses Legal := by
  have hidden := TabletId.format_lawful.refuses_counted 8 8 (fun _ => rfl)
    (fun _ _ => Nat.le_refl 8)
  refine ((Refuses.behind Format.bool_lawful (fun _ => rfl) <|
    Refuses.behind Format.int64_lawful (fun _ => rfl) <|
    Refuses.behind Format.int64_lawful (fun _ => rfl) <|
    Refuses.behind TabletId.format_lawful (fun _ => rfl) <|
    Refuses.behind TabletId.format_lawful (fun _ => rfl) <|
    Refuses.behind TabletId.format_lawful (fun _ => rfl) hidden).map _ _).mono fun binding legal => ?_
  simpa [Legal] using legal

theorem StorageSchema.format_refuses : format.Refuses Legal := by
  have rowkey := RowkeyColumn.format_lawful.refuses_counted 10 16 (fun _ => rfl)
    (fun _ _ => Nat.le_refl 10)
  have columns := Column.format_lawful.refuses_counted 10 16 (fun _ => rfl)
    (fun _ _ => Nat.le_refl 10)
  have lists := rowkey.pair (RowkeyColumn.format_lawful.counted 10 16 (fun _ => rfl)
    (fun _ _ => Nat.le_refl 10)) columns
  refine ((Refuses.behind formatVersion_lawful (fun _ => rfl) <|
    Refuses.behind Format.int64_lawful (fun _ => rfl) <|
    Refuses.behind Format.tagged_lawful (fun _ => rfl) <|
    Refuses.behind Format.tagged_lawful (fun _ => rfl) <|
    Refuses.behind Format.tagged_lawful (fun _ => rfl) <|
    Refuses.behind Format.tagged_lawful (fun _ => rfl) <|
    Refuses.behind Format.bool_lawful (fun _ => rfl) <|
    Refuses.behind Format.int64_lawful (fun _ => rfl) <|
    Refuses.behind Format.int64_lawful (fun _ => rfl) <|
    Refuses.behind Format.int64_lawful (fun _ => rfl) <|
    Refuses.behind Format.int64_lawful (fun _ => rfl) <|
    Refuses.behind Format.int64_lawful (fun _ => rfl) <|
    Refuses.behind Format.uint64_lawful (fun _ => rfl) <|
    Refuses.behind Format.bool_lawful (fun _ => rfl) lists).map _ _).mono fun schema legal => ?_
  simp [legal.formatVersion, legal.rowkeyColumns_lt, legal.columns_lt]

theorem CompactionQueue.format_refuses : format.Refuses Legal := by
  have pending := Compaction.format_lawful.refuses_counted 26 32 (fun _ => rfl)
    (fun _ _ => Nat.le_refl 26)
  refine ((Refuses.behind Format.tagged_lawful (fun _ => rfl) <|
    Refuses.behind Format.int64_lawful (fun _ => rfl) <|
    Refuses.behind Format.bool_lawful (fun _ => rfl) pending).refine _ _).mono fun queue legal => ?_
  simpa using legal.length_lt

theorem Snapshot.format_refuses : format.Refuses Legal := by
  have last : (StoreFlag.format.pair Format.int64).Refuses fun _ => True :=
    refuses_of_uncharged fun _ => rfl
  have compactions := CompactionQueue.format_refuses.pair CompactionQueue.format_lawful last
  have schema := StorageSchema.format_refuses.pair StorageSchema.format_lawful compactions
  have binding := Binding.format_refuses.pair Binding.format_lawful schema
  have states := Refuses.behind Readiness.format_lawful (fun _ => rfl) <|
    Refuses.behind ReportStatus.format_lawful (fun _ => rfl) <|
    Refuses.behind TransactionState.format_lawful (fun _ => rfl) binding
  have autoincrement :=
    Autoincrement.Sequence.format_refuses.pair Autoincrement.Sequence.format_lawful states
  refine ((Refuses.behind LogStreamId.format_lawful (fun _ => rfl) <|
    Refuses.behind TabletId.format_lawful (fun _ => rfl) <|
    Refuses.behind TabletId.format_lawful (fun _ => rfl) <|
    Refuses.behind TabletId.format_lawful (fun _ => rfl) <|
    Refuses.behind Scn.format_lawful (fun _ => rfl) <|
    Refuses.behind Scn.format_lawful (fun _ => rfl) <|
    Refuses.behind Scn.format_lawful (fun _ => rfl) <|
    Refuses.behind Scn.format_lawful.optional (Format.optional_charges fun _ => rfl) <|
    Refuses.behind Scn.format_lawful.optional (Format.optional_charges fun _ => rfl) <|
    Refuses.behind Format.int64_lawful.optional (Format.optional_charges fun _ => rfl) <|
    Refuses.behind Format.int64_lawful (fun _ => rfl) <|
    Refuses.behind Format.int64_lawful (fun _ => rfl) <|
    Refuses.behind Format.tagged_lawful (fun _ => rfl) autoincrement).map _ _).mono
      fun snapshot legal => ?_
  simp [legal.autoincrement, legal.binding, legal.schema, legal.compactions]

end TabletRecords
