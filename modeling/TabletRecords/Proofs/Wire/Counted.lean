import TabletRecords.Proofs.Wire.Scalar

/-!
Counted lists. The count is refused early only where the elements could not be there, so the format
of a list is lawful as soon as that of its elements is, for all lists whose count fits its field.
-/
namespace TabletRecords.Wire

open Arena (Account total total_cons total_nil listCharges)
open Outcome

variable {α : Type}

theorem Reader.count_eq_ok_iff {least n : Nat} {before after : Cursor} :
    count least before = .ok n after ↔
      n < BigEndian.capacity 4 ∧ before.Passes (BigEndian.digits 4 n) after ∧
        min (n * least) sizeMax ≤ after.rest.length := by
  simp only [count, bind_eq_ok_iff, uint32_exact.eq_ok_iff]
  constructor
  · rintro ⟨word, middle, ⟨-, passes⟩, remaining, _, h, later⟩
    cases h
    split at later
    · obtain ⟨_, _, h, -⟩ := bind_eq_ok_iff.mp later
      cases h
    · next room =>
      cases later
      exact ⟨word.toNat_lt, passes, Nat.not_lt.mp room⟩
  · rintro ⟨small, passes, room⟩
    have word : (UInt32.ofNat n).toNat = n := UInt32.toNat_ofNat_of_lt' small
    have enough : ¬ after.remaining < min (n * least) sizeMax := Nat.not_lt.mpr room
    refine ⟨UInt32.ofNat n, after, ⟨trivial, by rwa [word]⟩, after.remaining, after, rfl, ?_⟩
    simp only [word, enough, ↓reduceIte, pure_apply]

namespace Intake

theorem charge_eq_ok_iff {size : Nat} {before after : IntakeState} {u : PUnit} :
    charge size before = .ok u after ↔ before.Takes [] [size] after := by
  unfold charge
  constructor
  · intro charged
    split at charged <;> cases charged
    next fits =>
      exact ⟨Cursor.passes_nil.mpr rfl, by rw [Account.chargeAll_singleton, fits], rfl⟩
  · rintro ⟨cursor, account, charged⟩
    rw [Account.chargeAll_singleton] at account
    rw [Cursor.passes_nil] at cursor
    cases after
    simp_all

theorem charge_grows {size : Nat} {before after : IntakeState} {error : IntakeError}
    (failed : charge size before = .error error after) : before.Grows after := by
  unfold charge at failed
  split at failed <;> cases failed
  exact .refl _

theorem forM_charge_eq_ok_iff {sizes : List Nat} {before after : IntakeState} {u : PUnit} :
    sizes.forM charge before = .ok u after ↔ before.Takes [] sizes after := by
  induction sizes generalizing before with
  | nil =>
    rw [IntakeState.takes_nil]
    constructor
    · intro h
      cases h
      rfl
    · rintro rfl
      rfl
  | cons size sizes ih =>
    show (do charge size; sizes.forM charge) before = .ok u after ↔
      before.Takes ([] ++ []) ([size] ++ sizes) after
    rw [bind_eq_ok_iff, IntakeState.takes_append]
    simp only [charge_eq_ok_iff, ih]
    constructor
    · rintro ⟨-, middle, first, rest⟩
      exact ⟨middle, first, rest⟩
    · rintro ⟨middle, first, rest⟩
      exact ⟨.unit, middle, first, rest⟩

theorem forM_charge_grows {sizes : List Nat} {before after : IntakeState} {error : IntakeError}
    (failed : sizes.forM charge before = .error error after) : before.Grows after := by
  induction sizes generalizing before with
  | nil => cases failed
  | cons size sizes ih =>
    replace failed : (do charge size; sizes.forM charge) before = .error error after := failed
    rcases bind_eq_error_iff.mp failed with failed | ⟨u, middle, first, failed⟩
    · exact charge_grows failed
    · exact (charge_eq_ok_iff.mp first).grows.trans (ih failed)

variable {format : Format α} {legal : α → Prop}

theorem replicate_eq_ok_iff (lawful : format.Lawful legal)
    (uncharged : ∀ value, format.charges value = [])
    {n : Nat} {items : List α} {before after : IntakeState} :
    replicate format.read n before = .ok items after ↔
      (items.length = n ∧ ∀ item ∈ items, legal item) ∧
        before.Takes (items.flatMap format.bytes) [] after := by
  induction n generalizing before items after with
  | zero =>
    constructor
    · intro h
      cases h
      exact ⟨⟨rfl, by simp⟩, IntakeState.takes_nil.mpr rfl⟩
    · rintro ⟨⟨empty, -⟩, taken⟩
      obtain rfl := List.eq_nil_of_length_eq_zero empty
      cases IntakeState.takes_nil.mp taken
      rfl
  | succ n ih =>
    simp only [replicate, bind_eq_ok_iff, lawful.read_eq_ok_iff, ih, pure_apply]
    constructor
    · rintro ⟨item, middle, ⟨hlegal, taken⟩, items, _, ⟨⟨length, hlegals⟩, rest⟩, h⟩
      cases h
      refine ⟨⟨by simp [length], by simpa using ⟨hlegal, hlegals⟩⟩, ?_⟩
      rw [uncharged] at taken
      exact IntakeState.takes_append.mpr ⟨middle, taken, rest⟩
    · rintro ⟨⟨length, hlegals⟩, taken⟩
      obtain ⟨item, items, rfl⟩ := List.exists_cons_of_length_eq_add_one length
      rw [List.flatMap_cons, ← List.nil_append ([] : List Nat), IntakeState.takes_append] at taken
      obtain ⟨middle, taken, rest⟩ := taken
      refine ⟨item, middle, ⟨hlegals item List.mem_cons_self, ?_⟩, items, after,
        ⟨⟨by simpa using length, fun other mem => hlegals other (List.mem_cons_of_mem item mem)⟩,
          rest⟩, rfl⟩
      rwa [uncharged]

theorem replicate_grows (lawful : format.Lawful legal) {n : Nat} {before after : IntakeState}
    {error : IntakeError} (failed : replicate format.read n before = .error error after) :
    before.Grows after := by
  induction n generalizing before with
  | zero => cases failed
  | succ n ih =>
    simp only [replicate, bind_eq_error_iff] at failed
    rcases failed with failed | ⟨item, middle, taken, failed | ⟨_, _, -, h⟩⟩
    · exact lawful.grows failed
    · exact (lawful.read_eq_ok_iff.mp taken).2.grows.trans (ih failed)
    · cases h

end Intake

namespace Format

theorem length_flatMap_bytes {format : Format α} {legal : α → Prop} (lawful : format.Lawful legal)
    (items : List α) :
    (items.flatMap format.bytes).length = total (items.map format.size) := by
  induction items with
  | nil => rfl
  | cons item items ih =>
    rw [List.flatMap_cons, List.length_append, ih, lawful.length_bytes, List.map_cons, total_cons]

theorem mul_le_total_size {format : Format α} {legal : α → Prop} {least : Nat}
    (least_le : ∀ value, legal value → least ≤ format.size value) {items : List α}
    (hlegal : ∀ item ∈ items, legal item) :
    items.length * least ≤ total (items.map format.size) := by
  induction items with
  | nil => simp
  | cons item items ih =>
    have first := least_le item (hlegal item List.mem_cons_self)
    have rest := ih (fun other mem => hlegal other (List.mem_cons_of_mem item mem))
    rw [List.length_cons, Nat.succ_mul, List.map_cons, total_cons]
    omega

theorem counted_read_of_passes {format : Format α} {legal : α → Prop} (lawful : format.Lawful legal)
    {least memory : Nat} (uncharged : ∀ value, format.charges value = [])
    (least_le : ∀ value, legal value → least ≤ format.size value) {items : List α}
    (small : items.length < BigEndian.capacity 4) (hlegal : ∀ item ∈ items, legal item)
    {before : IntakeState} {cursor : Cursor}
    (passes : before.cursor.Passes ((format.counted least memory).bytes items) cursor) :
    (format.counted least memory).read before =
      (do (listCharges items.length memory).forM Intake.charge; return items)
        { before with cursor } := by
  obtain ⟨middle, count, elements⟩ := Cursor.passes_append.mp passes
  have room : items.length * least ≤ middle.rest.length := by
    rw [elements.rest, List.length_append, length_flatMap_bytes lawful]
    have smallest := mul_le_total_size least_le hlegal
    omega
  have counted : Intake.ofReader (Reader.count least) before =
      .ok items.length { before with cursor := middle } :=
    Intake.ofReader_eq_ok_iff.mpr
      ⟨middle, Reader.count_eq_ok_iff.mpr ⟨small, count, by omega⟩, rfl⟩
  have read : Intake.replicate format.read items.length { before with cursor := middle } =
      .ok items { before with cursor } :=
    (Intake.replicate_eq_ok_iff lawful uncharged).mpr
      ⟨⟨rfl, hlegal⟩, elements, Account.chargeAll_nil_eq_ok_iff.mpr rfl, rfl⟩
  exact (bind_eq_of_ok counted).trans (bind_eq_of_ok read)

theorem Lawful.counted {format : Format α} {legal : α → Prop} (lawful : format.Lawful legal)
    (least memory : Nat) (uncharged : ∀ value, format.charges value = [])
    (least_le : ∀ value, legal value → least ≤ format.size value) :
    (format.counted least memory).Lawful
      (fun items => items.length < BigEndian.capacity 4 ∧ ∀ item ∈ items, legal item) where
  length_bytes := by
    intro items
    rw [Format.counted, List.length_append, BigEndian.length_digits, length_flatMap_bytes lawful]
  read_eq_ok_iff := by
    intro before items after
    constructor
    · simp only [Format.counted, bind_eq_ok_iff, Intake.ofReader_eq_ok_iff,
        Intake.replicate_eq_ok_iff lawful uncharged, Intake.forM_charge_eq_ok_iff,
        Reader.count_eq_ok_iff, pure_apply]
      rintro ⟨n, _, ⟨cursor, ⟨small, passes, -⟩, rfl⟩, items, middle, ⟨⟨rfl, hlegal⟩, taken⟩,
        -, _, charged, h⟩
      cases h
      refine ⟨⟨small, hlegal⟩, ?_⟩
      have count : before.Takes (BigEndian.digits 4 items.length) [] { before with cursor } :=
        ⟨passes, Account.chargeAll_nil_eq_ok_iff.mpr rfl, rfl⟩
      have read := IntakeState.takes_append.mpr ⟨_, count, taken⟩
      simpa using IntakeState.takes_append.mpr ⟨_, read, charged⟩
    · rintro ⟨⟨small, hlegal⟩, taken⟩
      have charged : (listCharges items.length memory).forM Intake.charge
          { before with cursor := after.cursor } = .ok () after :=
        Intake.forM_charge_eq_ok_iff.mpr
          ⟨Cursor.passes_nil.mpr rfl, taken.account, taken.charged⟩
      rw [counted_read_of_passes lawful uncharged least_le small hlegal taken.cursor]
      exact bind_eq_of_ok charged
  grows := by
    intro before error after failed
    simp only [Format.counted, bind_eq_error_iff, Intake.ofReader_eq_ok_iff] at failed
    rcases failed with failed | ⟨n, _, ⟨cursor, -, rfl⟩, later⟩
    · exact Intake.ofReader_grows failed
    · have counted : before.Grows { before with cursor } := .refl before
      rcases later with failed | ⟨items, middle, taken, failed | ⟨_, _, -, h⟩⟩
      · exact counted.trans (Intake.replicate_grows lawful failed)
      · have read := ((Intake.replicate_eq_ok_iff lawful uncharged).mp taken).2
        exact counted.trans (read.grows.trans (Intake.forM_charge_grows failed))
      · cases h

end Format

end TabletRecords.Wire
