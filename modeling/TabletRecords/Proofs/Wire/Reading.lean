import TabletRecords.Proofs.Outcome
import TabletRecords.Wire.Tagged

/-!
Exact reads. A read is exact for an encoding when it takes in a value just where the bytes of that
value stand at the front, and then moves past them: whatever is written is read, and nothing else
is. All primitive reads are exact.
-/
namespace TabletRecords.Wire

open Outcome

structure Cursor.Passes (before : Cursor) (bytes : List UInt8) (after : Cursor) : Prop where
  rest : before.rest = bytes ++ after.rest
  position : after.position = before.position + bytes.length

theorem Cursor.passes_nil {before after : Cursor} : before.Passes [] after ↔ before = after := by
  constructor
  · rintro ⟨rest, position⟩
    cases before
    cases after
    simp_all
  · rintro rfl
    exact ⟨rfl, rfl⟩

theorem Cursor.passes_append {before after : Cursor} {first second : List UInt8} :
    before.Passes (first ++ second) after ↔
      ∃ middle, before.Passes first middle ∧ Cursor.Passes middle second after := by
  constructor
  · rintro ⟨rest, position⟩
    refine ⟨⟨second ++ after.rest, before.position + first.length⟩, ⟨?_, rfl⟩, rfl, ?_⟩
    · rw [rest, List.append_assoc]
    · rw [position, List.length_append, Nat.add_assoc]
  · rintro ⟨middle, ⟨rest, position⟩, rest', position'⟩
    refine ⟨?_, ?_⟩
    · rw [rest, rest', List.append_assoc]
    · rw [position', position, List.length_append, Nat.add_assoc]

namespace Reader

variable {α β : Type}

/-- A read takes in exactly the encodings of legal values. -/
structure Exact (read : Reader α) (bytes : α → List UInt8) (legal : α → Prop) : Prop where
  eq_ok_iff : ∀ {before value after},
    read before = .ok value after ↔ legal value ∧ before.Passes (bytes value) after

theorem take_exact (n : Nat) : Exact (take n) id (·.length = n) := by
  constructor
  intro before bytes after
  unfold take Cursor.remaining Cursor.advance
  split
  · next h =>
    constructor
    · intro read
      cases read
    · rintro ⟨rfl, rest, -⟩
      rw [rest, List.length_append] at h
      exact absurd h (by simp)
  · next h =>
    constructor
    · intro read
      cases read
      refine ⟨List.length_take_of_le (by omega), (List.take_append_drop _ _).symm, ?_⟩
      simp only [id, List.length_take]
      omega
    · rintro ⟨rfl, rest, position⟩
      cases after
      simp_all

theorem number_exact (width : Nat) :
    Exact (number width) (BigEndian.digits width) (· < BigEndian.capacity width) := by
  constructor
  intro before n after
  rw [number, map_eq_ok_iff]
  constructor
  · rintro ⟨bytes, read, rfl⟩
    obtain ⟨rfl, passes⟩ := (take_exact width).eq_ok_iff.mp read
    exact ⟨BigEndian.value_lt bytes, by rwa [BigEndian.digits_value]⟩
  · rintro ⟨legal, passes⟩
    exact ⟨_, (take_exact width).eq_ok_iff.mpr ⟨BigEndian.length_digits width n, passes⟩,
      BigEndian.value_digits legal⟩

theorem Exact.map {read : Reader α} {bytes : α → List UInt8} {legal : α → Prop}
    (exact : Exact read bytes legal) (pack : α → β) (unpack : β → α)
    (unpack_pack : ∀ stored, legal stored → unpack (pack stored) = stored)
    (pack_unpack : ∀ value, pack (unpack value) = value) :
    Exact (pack <$> read) (fun value => bytes (unpack value)) (fun value => legal (unpack value)) := by
  constructor
  intro before value after
  rw [map_eq_ok_iff]
  constructor
  · rintro ⟨stored, taken, rfl⟩
    obtain ⟨hlegal, passes⟩ := exact.eq_ok_iff.mp taken
    simp only [unpack_pack stored hlegal]
    exact ⟨hlegal, passes⟩
  · rintro ⟨hlegal, passes⟩
    exact ⟨unpack value, exact.eq_ok_iff.mpr ⟨hlegal, passes⟩, pack_unpack value⟩

theorem Exact.congr {read : Reader α} {bytes bytes' : α → List UInt8} {legal legal' : α → Prop}
    (exact : Exact read bytes legal) (same : ∀ value, bytes value = bytes' value)
    (legal_iff : ∀ value, legal value ↔ legal' value) : Exact read bytes' legal' := by
  constructor
  intro before value after
  rw [exact.eq_ok_iff, same, legal_iff]

theorem byte_exact : Exact byte (fun byte => [byte]) (fun _ => True) := by
  refine ((number_exact 1).map UInt8.ofNat UInt8.toNat ?_ ?_).congr ?_ ?_
  · intro n h
    exact UInt8.toNat_ofNat_of_lt' h
  · intro byte
    exact UInt8.ofNat_toNat
  · intro byte
    simp [BigEndian.digits]
  · intro byte
    simp [BigEndian.capacity, byte.toNat_lt]

theorem uint32_exact : Exact uint32 (fun n => BigEndian.digits 4 n.toNat) (fun _ => True) := by
  refine ((number_exact 4).map UInt32.ofNat UInt32.toNat ?_ ?_).congr (fun _ => rfl) ?_
  · intro n h
    exact UInt32.toNat_ofNat_of_lt' h
  · intro n
    exact UInt32.ofNat_toNat
  · intro n
    simp [BigEndian.capacity, n.toNat_lt]

theorem uint64_exact : Exact uint64 (fun n => BigEndian.digits 8 n.toNat) (fun _ => True) := by
  refine ((number_exact 8).map UInt64.ofNat UInt64.toNat ?_ ?_).congr (fun _ => rfl) ?_
  · intro n h
    exact UInt64.toNat_ofNat_of_lt' h
  · intro n
    exact UInt64.ofNat_toNat
  · intro n
    simp [BigEndian.capacity, n.toNat_lt]

theorem int32_exact :
    Exact int32 (fun n => BigEndian.digits 4 n.toUInt32.toNat) (fun _ => True) :=
  uint32_exact.map UInt32.toInt32 Int32.toUInt32 (fun _ _ => UInt32.toUInt32_toInt32 _)
    (fun _ => Int32.toInt32_toUInt32 _)

theorem int64_exact :
    Exact int64 (fun n => BigEndian.digits 8 n.toUInt64.toNat) (fun _ => True) :=
  uint64_exact.map UInt64.toInt64 Int64.toUInt64 (fun _ _ => UInt64.toUInt64_toInt64 _)
    (fun _ => Int64.toInt64_toUInt64 _)

theorem bool_exact : Exact bool (fun b => [if b then 1 else 0]) (fun _ => True) := by
  constructor
  intro before b after
  rw [bool, bind_eq_ok_iff]
  constructor
  · rintro ⟨byte, middle, read, later⟩
    obtain ⟨-, passes⟩ := byte_exact.eq_ok_iff.mp read
    revert later
    split <;> intro later <;> cases later <;> exact ⟨trivial, passes⟩
  · rintro ⟨-, passes⟩
    refine ⟨_, after, byte_exact.eq_ok_iff.mpr ⟨trivial, passes⟩, ?_⟩
    cases b <;> rfl

theorem tagged_exact [DecidableEq α] [Tagged α] :
    Exact (tagged (Tagged.family α) (Tagged.ofTag? (α := α))) (fun value => [Tagged.tag value])
      (fun _ => True) := by
  constructor
  intro before value after
  rw [tagged, bind_eq_ok_iff]
  constructor
  · rintro ⟨tag, middle, read, later⟩
    obtain ⟨-, passes⟩ := byte_exact.eq_ok_iff.mp read
    cases h : Tagged.ofTag? (α := α) tag with
    | none =>
      rw [h] at later
      cases later
    | some found =>
      rw [h] at later
      cases later
      rw [Tagged.tag_eq_of_ofTag? h]
      exact ⟨trivial, passes⟩
  · rintro ⟨-, passes⟩
    refine ⟨_, after, byte_exact.eq_ok_iff.mpr ⟨trivial, passes⟩, ?_⟩
    rw [Tagged.ofTag?_tag]
    rfl

end Reader

end TabletRecords.Wire
