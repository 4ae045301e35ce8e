import TabletRecords.Proofs.Wire.Flat

/-!
The guard of a count. The count of a list is refused where fewer bytes follow than its elements take
at least. Without that guard the same lists would be read: an element that is read has taken its
bytes, so elements that the guard refuses could not have been there. What the guard is for is the
bound on the count, which is known before there is any element.
-/
namespace TabletRecords.Wire

open Arena (Account listCharges)
open Format (Flat)
open Outcome

variable {α β : Type}

def Reader.Consumes (read : Reader α) (least : Nat) : Prop :=
  ∀ before value after, read before = .ok value after →
    after.remaining + least ≤ before.remaining

theorem Cursor.Passes.remaining_eq {before after : Cursor} {bytes : List UInt8}
    (passes : before.Passes bytes after) : after.remaining + bytes.length = before.remaining := by
  rw [Cursor.remaining, Cursor.remaining, passes.rest, List.length_append, Nat.add_comm]

theorem Format.Lawful.consumes {format : Format α} [format.Flat] {legal : α → Prop} {least : Nat}
    (lawful : format.Lawful legal) (least_le : ∀ value, legal value → least ≤ format.size value) :
    (Flat.reader format).Consumes least := by
  intro before value after read
  obtain ⟨hlegal, passes⟩ := (Flat.exact lawful).eq_ok_iff.mp read
  have taken := passes.remaining_eq
  rw [lawful.length_bytes] at taken
  have enough := least_le value hlegal
  omega

namespace Intake

def Refunds (read : Intake α) : Prop :=
  ∀ before error after, read before = .error error after →
    after.account = before.account ∧ after.charged = before.charged

structure Spares (read : Intake α) : Prop where
  of_ok : ∀ {before value after}, read before = .ok value after →
    after.account = before.account ∧ after.charged = before.charged
  refunds : read.Refunds

theorem spares_pure (value : α) : Spares (pure value : Intake α) where
  of_ok := by
    intro before _ after h
    cases h
    exact ⟨rfl, rfl⟩
  refunds := by
    intro before _ after h
    cases h

theorem spares_ofReader (read : Reader α) : (ofReader read).Spares where
  of_ok := by
    intro before value after done
    obtain ⟨cursor, -, rfl⟩ := ofReader_eq_ok_iff.mp done
    exact ⟨rfl, rfl⟩
  refunds := by
    intro before error after failed
    unfold ofReader at failed
    split at failed <;> cases failed
    exact ⟨rfl, rfl⟩

theorem Spares.bind_refunds {read : Intake α} {next : α → Intake β} (spares : read.Spares)
    (later : ∀ value, (next value).Refunds) : (read >>= next).Refunds := by
  intro before error after failed
  rcases bind_eq_error_iff.mp failed with failed | ⟨value, middle, first, failed⟩
  · exact spares.refunds _ _ _ failed
  · obtain ⟨account, charged⟩ := spares.of_ok first
    obtain ⟨account', charged'⟩ := later value _ _ _ failed
    exact ⟨account'.trans account, charged'.trans charged⟩

theorem Spares.bind {read : Intake α} {next : α → Intake β} (spares : read.Spares)
    (later : ∀ value, (next value).Spares) : (read >>= next).Spares where
  of_ok := by
    intro before result after done
    obtain ⟨value, middle, first, second⟩ := bind_eq_ok_iff.mp done
    obtain ⟨account, charged⟩ := spares.of_ok first
    obtain ⟨account', charged'⟩ := (later value).of_ok second
    exact ⟨account'.trans account, charged'.trans charged⟩
  refunds := spares.bind_refunds fun value => (later value).refunds

theorem Spares.replicate {read : Intake α} (spares : read.Spares) (n : Nat) :
    (Intake.replicate read n).Spares := by
  induction n with
  | zero => exact spares_pure []
  | succ n ih => exact spares.bind fun item => ih.bind fun items => spares_pure (item :: items)

theorem replicate_consumes {read : Reader α} {least : Nat} (consumes : read.Consumes least)
    {n : Nat} {before after : IntakeState} {items : List α}
    (done : replicate (ofReader read) n before = .ok items after) :
    items.length = n ∧ after.cursor.remaining + n * least ≤ before.cursor.remaining := by
  induction n generalizing before items with
  | zero =>
    cases done
    exact ⟨rfl, by simp⟩
  | succ n ih =>
    obtain ⟨item, middle, first, done⟩ := bind_eq_ok_iff.mp done
    obtain ⟨rest, last, later, done⟩ := bind_eq_ok_iff.mp done
    cases done
    obtain ⟨cursor, read, rfl⟩ := ofReader_eq_ok_iff.mp first
    obtain ⟨length, taken⟩ := ih later
    have own := consumes _ _ _ read
    dsimp only at taken
    refine ⟨by rw [List.length_cons, length], ?_⟩
    rw [Nat.succ_mul]
    omega

theorem refunds_forM_charge_listCharges (count size : Nat) :
    Refunds ((listCharges count size).forM charge) := by
  intro before error after failed
  rw [listCharges] at failed
  split at failed
  · cases failed
  · replace failed : (do charge (count * size); [].forM charge) before = .error error after := failed
    rcases bind_eq_error_iff.mp failed with failed | ⟨_, _, -, failed⟩
    · unfold charge at failed
      split at failed <;> cases failed
      exact ⟨rfl, rfl⟩
    · cases failed

end Intake

theorem Reader.count_eq_ok_iff_uint32 {least n : Nat} {before after : Cursor} :
    count least before = .ok n after ↔
      (UInt32.toNat <$> uint32) before = .ok n after ∧
        min (n * least) sizeMax ≤ after.remaining := by
  rw [count_eq_ok_iff, map_eq_ok_iff]
  constructor
  · rintro ⟨small, passes, room⟩
    have word : (UInt32.ofNat n).toNat = n := UInt32.toNat_ofNat_of_lt' small
    exact ⟨⟨.ofNat n, uint32_exact.eq_ok_iff.mpr ⟨trivial, by rwa [word]⟩, word⟩, room⟩
  · rintro ⟨⟨word, read, rfl⟩, room⟩
    exact ⟨word.toNat_lt, (uint32_exact.eq_ok_iff.mp read).2, room⟩

theorem Reader.mul_le_remaining_of_count {least n : Nat} {before after : Cursor}
    (addressable : before.remaining ≤ sizeMax) (counted : count least before = .ok n after) :
    n * least ≤ after.remaining := by
  obtain ⟨-, passes, room⟩ := count_eq_ok_iff.mp counted
  have taken := passes.remaining_eq
  rw [BigEndian.length_digits] at taken
  replace room : min (n * least) sizeMax ≤ after.remaining := room
  -- Four bytes are taken, so less remains than the greatest address: the product is not cut off.
  omega

namespace Format

/-- A list that is read without a guard: its count, as many elements one after another, and the
charge. -/
def unguarded (element : Format α) (memory : Nat) : Intake (List α) := do
  let n ← Intake.ofReader (UInt32.toNat <$> Reader.uint32)
  let items ← Intake.replicate element.read n
  (listCharges n memory).forM Intake.charge
  return items

variable {element : Format α} [element.Flat] {least memory : Nat} {before after : IntakeState}
  {items : List α}

theorem counted_read_eq_ok_iff_unguarded (consumes : (Flat.reader element).Consumes least) :
    (element.counted least memory).read before = .ok items after ↔
      element.unguarded memory before = .ok items after := by
  simp only [Format.counted, unguarded, bind_eq_ok_iff, Intake.ofReader_eq_ok_iff,
    Reader.count_eq_ok_iff_uint32]
  constructor
  · rintro ⟨n, middle, ⟨cursor, ⟨count, -⟩, rfl⟩, later⟩
    exact ⟨n, _, ⟨cursor, count, rfl⟩, later⟩
  · rintro ⟨n, middle, ⟨cursor, count, rfl⟩, items', last, elements, later⟩
    refine ⟨n, _, ⟨cursor, ⟨count, ?_⟩, rfl⟩, items', last, elements, later⟩
    -- The elements have taken their least bytes, so these remained when the guard looked.
    rw [Flat.read_eq] at elements
    obtain ⟨-, taken⟩ := Intake.replicate_consumes consumes elements
    dsimp only at taken
    omega

theorem length_le_of_counted_read (consumes : (Flat.reader element).Consumes least)
    (done : (element.counted least memory).read before = .ok items after) :
    items.length * least + 4 ≤ before.cursor.remaining := by
  obtain ⟨n, middle, count, done⟩ := bind_eq_ok_iff.mp done
  obtain ⟨items', last, elements, done⟩ := bind_eq_ok_iff.mp done
  obtain ⟨_, _, -, done⟩ := bind_eq_ok_iff.mp done
  cases done
  obtain ⟨cursor, counted, rfl⟩ := Intake.ofReader_eq_ok_iff.mp count
  rw [Flat.read_eq] at elements
  obtain ⟨rfl, taken⟩ := Intake.replicate_consumes consumes elements
  have field := (Reader.count_eq_ok_iff.mp counted).2.1.remaining_eq
  rw [BigEndian.length_digits] at field
  dsimp only at taken
  omega

/-- The charge comes last, so a list that is not read leaves nothing charged. -/
theorem refunds_counted_read (least memory : Nat) : (element.counted least memory).read.Refunds := by
  have elements : ∀ n, (Intake.replicate element.read n).Spares := by
    rw [Flat.read_eq]
    exact (Intake.spares_ofReader (Flat.reader element)).replicate
  refine (Intake.spares_ofReader (Reader.count least)).bind_refunds fun n =>
    (elements n).bind_refunds fun items => ?_
  intro before error after failed
  rcases bind_eq_error_iff.mp failed with failed | ⟨_, _, -, failed⟩
  · exact Intake.refunds_forM_charge_listCharges _ _ _ _ _ failed
  · cases failed

/-- The guard of a count refuses nothing that could be read. For elements that take at least `least`
bytes, a list is read with the guard just where it is read without it, as the same elements, up to
the same place and with the same charge. Where the guard is passed, the count is bounded by the
bytes that remain, and so is a list that is read; where a read fails, nothing stays charged. The
elements of all lists take as many bytes as their guards ask for. -/
theorem guard_refuses_nothing_readable :
    (∀ {α : Type} (element : Format α) [element.Flat] (least memory : Nat),
      (Flat.reader element).Consumes least →
      (∀ before items after, (element.counted least memory).read before = .ok items after ↔
        element.unguarded memory before = .ok items after) ∧
      (∀ before n after, before.remaining ≤ sizeMax → Reader.count least before = .ok n after →
        n * least ≤ after.remaining ∧ (0 < least → n ≤ after.remaining / least)) ∧
      (∀ before items after, (element.counted least memory).read before = .ok items after →
        items.length * least + 4 ≤ before.cursor.remaining) ∧
      ∀ before error after, (element.counted least memory).read before = .error error after →
        after.account = before.account ∧ after.charged = before.charged) ∧
    (Flat.reader Autoincrement.Interval.format).Consumes 16 ∧
    (Flat.reader TabletId.format).Consumes 8 ∧
    (Flat.reader RowkeyColumn.format).Consumes 10 ∧
    (Flat.reader Column.format).Consumes 10 ∧
    (Flat.reader Compaction.format).Consumes 26 := by
  refine ⟨?_, Autoincrement.Interval.format_lawful.consumes fun _ _ => Nat.le_refl 16,
    TabletId.format_lawful.consumes fun _ _ => Nat.le_refl 8,
    RowkeyColumn.format_lawful.consumes fun _ _ => Nat.le_refl 10,
    Column.format_lawful.consumes fun _ _ => Nat.le_refl 10,
    Compaction.format_lawful.consumes fun _ _ => Nat.le_refl 26⟩
  intro α element _ least memory consumes
  refine ⟨fun before items after => counted_read_eq_ok_iff_unguarded consumes, ?_,
    fun before items after => length_le_of_counted_read consumes,
    refunds_counted_read least memory⟩
  intro before n after addressable counted
  have bound := Reader.mul_le_remaining_of_count addressable counted
  exact ⟨bound, fun positive => (Nat.le_div_iff_mul_le positive).mpr bound⟩

/-- A tablet's number is read with the guard and without it; where the count claims more than there
is, neither reads a list. -/
theorem guard_refuses_nothing_readable_tabletId :
    (Flat.reader TabletId.format).Consumes 8 ∧
    (TabletId.format.unguarded 8
        ⟨⟨[0, 0, 0, 1, 0, 0, 0, 0, 0, 0, 0, 7, 9], 3⟩, ⟨"", 8, 0, false⟩, 0⟩ =
      .ok [⟨7⟩] ⟨⟨[9], 15⟩, ⟨"", 8, 8, false⟩, 8⟩) ∧
    ((TabletId.format.counted 8 8).read
        ⟨⟨[0, 0, 0, 1, 0, 0, 0, 0, 0, 0, 0, 7, 9], 3⟩, ⟨"", 8, 0, false⟩, 0⟩ =
      .ok [⟨7⟩] ⟨⟨[9], 15⟩, ⟨"", 8, 8, false⟩, 8⟩) ∧
    (∀ items after,
      TabletId.format.unguarded 8 ⟨⟨[0, 0, 0, 2, 0, 0], 0⟩, ⟨"", 8, 0, false⟩, 0⟩ ≠
        .ok items after) := by
  obtain ⟨lists, -, consumes, -⟩ := guard_refuses_nothing_readable
  obtain ⟨same, -⟩ := lists TabletId.format 8 8 consumes
  have read : TabletId.format.unguarded 8
      ⟨⟨[0, 0, 0, 1, 0, 0, 0, 0, 0, 0, 0, 7, 9], 3⟩, ⟨"", 8, 0, false⟩, 0⟩ =
        .ok [⟨7⟩] ⟨⟨[9], 15⟩, ⟨"", 8, 8, false⟩, 8⟩ := rfl
  refine ⟨consumes, read, (same _ _ _).mpr read, fun items after done => ?_⟩
  have refused : (TabletId.format.counted 8 8).read
      ⟨⟨[0, 0, 0, 2, 0, 0], 0⟩, ⟨"", 8, 0, false⟩, 0⟩ =
        .error (.wire (.tooSmall 16 2)) ⟨⟨[0, 0], 4⟩, ⟨"", 8, 0, false⟩, 0⟩ := rfl
  have guarded := (same _ _ _).mpr done
  rw [refused] at guarded
  cases guarded

end Format

end TabletRecords.Wire
