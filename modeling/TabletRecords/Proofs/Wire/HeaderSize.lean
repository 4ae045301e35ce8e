import TabletRecords.Proofs.Wire.Damage
import TabletRecords.Proofs.Wire.Guarded

/-!
Headers made for the size of a body. The sizes are words, and their sum wraps for the eight greatest
sizes of a body. Below these, a header is made where the record fits the length field; it says how
long the record is, and is accepted where the whole body follows it. A sum that has wrapped fits the
length field as well, but what it says is less than a header takes, and it is never accepted.
-/
namespace TabletRecords.Wire

namespace Header

theorem forBody_of_fits {bodySize : UInt64} (fits : headerSize + bodySize.toNat < UInt64.size)
    (version : Int32) :
    forBody version bodySize = ofSize version (headerSize + bodySize.toNat) := by
  have sum : (UInt64.ofNat headerSize + bodySize).toNat = headerSize + bodySize.toNat := by
    rw [UInt64.toNat_add]
    exact Nat.mod_eq_of_lt fits
  rw [forBody, sum]

theorem forBody_of_wraps {bodySize : UInt64} (wraps : UInt64.size ≤ headerSize + bodySize.toNat)
    (version : Int32) :
    forBody version bodySize = ofSize version (headerSize + bodySize.toNat - UInt64.size) := by
  have sum : (UInt64.ofNat headerSize + bodySize).toNat =
      headerSize + bodySize.toNat - UInt64.size := by
    have small : headerSize < UInt64.size := by decide
    have bound := bodySize.toNat_lt_size
    rw [UInt64.toNat_add]
    exact (Nat.mod_eq_sub_mod wraps).trans (Nat.mod_eq_of_lt (by omega))
  rw [forBody, sum]

theorem exists_ofSize_iff {version : Int32} {size : Nat} :
    (∃ header, ofSize version size = .ok header) ↔ size ≤ 2147483647 := by
  simp only [ofSize_eq_ok_iff, exists_and_left, exists_eq, and_true]
  exact Nat.lt_succ_iff

/-- A header is true to a record that has a version and a body of some size. A reader that admits a
record of this length accepts the header where the whole body follows, and else finds bytes missing.
-/
structure Describes (header : Header) (version : Int32) (bodySize : Nat) : Prop where
  counted : Guarded.length header = .ok (headerSize + bodySize)
  whole : headerSize ≤ header.size
  accepted : ∀ (most position : Nat) (rest : List UInt8), header.size ≤ most →
    bodySize ≤ rest.length →
      read version most ⟨format.bytes header ++ rest, position⟩ =
        .ok header ⟨rest, position + headerSize⟩
  lacking : ∀ (most position : Nat) (rest : List UInt8), header.size ≤ most →
    rest.length < bodySize →
      ∃ after, read version most ⟨format.bytes header ++ rest, position⟩ =
        .error (.tooSmall header.size (headerSize + rest.length)) after

/-- A header says what is left of a sum that has wrapped. This is less than its own size, and no
reader accepts it, whatever follows it. -/
structure Curtailed (header : Header) (version : Int32) (bodySize : Nat) : Prop where
  counted : Guarded.length header = .ok (headerSize + bodySize - UInt64.size)
  short : header.size < headerSize
  refused : ∀ (most position : Nat) (rest : List UInt8),
    ∃ after, read version most ⟨format.bytes header ++ rest, position⟩ =
      .error (.corrupt (.lengthOutside header.size headerSize most)) after

variable {version : Int32} {bodySize : Nat} {header : Header}

theorem describes_of_size (known : header.version = version) (nonneg : 0 ≤ header.length)
    (size : header.size = headerSize + bodySize) : header.Describes version bodySize where
  counted := by rw [Guarded.length_eq_ok nonneg, size]
  whole := by
    rw [size]
    exact Nat.le_add_right _ _
  accepted most position rest limit enough := by
    obtain ⟨after, outcome⟩ := read_eq version most position header rest
    have accepted : header.fault? version most rest.length = none :=
      fault?_eq_none_iff.mpr ⟨known, nonneg, by omega, limit, by omega⟩
    rw [outcome, accepted]
  lacking most position rest limit fewer := by
    obtain ⟨after, outcome⟩ := read_eq version most position header rest
    exact ⟨after, by rw [outcome, fault?_eq_tooSmall known nonneg limit (by omega)]⟩

theorem curtailed_of_size (known : header.version = version) (nonneg : 0 ≤ header.length)
    (size : header.size = headerSize + bodySize - UInt64.size) (word : bodySize < UInt64.size) :
    header.Curtailed version bodySize := by
  have nonempty : 0 < headerSize := by decide
  have short : header.size < headerSize := by omega
  refine ⟨?_, short, fun most position rest => ?_⟩
  · rw [Guarded.length_eq_ok nonneg, size]
  · obtain ⟨after, outcome⟩ := read_eq version most position header rest
    exact ⟨after, by rw [outcome, fault?_eq_lengthOutside known nonneg (.inl short)]⟩

/-- Headers for all sizes of a body that a word can hold. One is made where the record fits the
length field, and it describes the record; one is made as well where the sum of the sizes wraps, and
it is curtailed. No other sizes have a header. -/
theorem describes_unless_wrapped (version : Int32) (bodySize : UInt64) :
    ((∃ header, forBody version bodySize = .ok header) ↔
      headerSize + bodySize.toNat ≤ 2147483647 ∨ UInt64.size ≤ headerSize + bodySize.toNat) ∧
    ∀ header, forBody version bodySize = .ok header →
      (headerSize + bodySize.toNat < UInt64.size → header.Describes version bodySize.toNat) ∧
      (UInt64.size ≤ headerSize + bodySize.toNat → header.Curtailed version bodySize.toNat) := by
  rcases Nat.lt_or_ge (headerSize + bodySize.toNat) UInt64.size with fits | wraps
  · rw [forBody_of_fits fits, exists_ofSize_iff]
    refine ⟨(or_iff_left (Nat.not_le.mpr fits)).symm, fun header made => ⟨fun _ => ?_, fun wraps => ?_⟩⟩
    · obtain ⟨small, rfl⟩ := ofSize_eq_ok_iff.mp made
      exact describes_of_size rfl (zero_le_ofNat small) (size_ofNat small)
    · exact absurd wraps (Nat.not_le.mpr fits)
  · rw [forBody_of_wraps wraps, exists_ofSize_iff]
    have word := bodySize.toNat_lt_size
    have small : headerSize ≤ 2147483647 := by decide
    refine ⟨⟨fun _ => .inr wraps, fun _ => by omega⟩, fun header made => ⟨fun fits => ?_, fun _ => ?_⟩⟩
    · exact absurd wraps (Nat.not_le.mpr fits)
    · obtain ⟨small, rfl⟩ := ofSize_eq_ok_iff.mp made
      exact curtailed_of_size rfl (zero_le_ofNat small) (size_ofNat small) word

/-- The header for four bytes is accepted in front of them and not in front of two, and the header
for as many bytes as a word can say is curtailed. -/
theorem describes_unless_wrapped_four :
    forBody 1 4 = .ok ⟨1, 12⟩ ∧ headerSize + (4 : UInt64).toNat < UInt64.size ∧
    read 1 1024 ⟨[0, 0, 0, 1, 0, 0, 0, 12, 5, 6, 7, 8], 0⟩ = .ok ⟨1, 12⟩ ⟨[5, 6, 7, 8], 8⟩ ∧
    (∃ after, read 1 1024 ⟨[0, 0, 0, 1, 0, 0, 0, 12, 5, 6], 0⟩ = .error (.tooSmall 12 10) after) ∧
    forBody 1 18446744073709551615 = .ok ⟨1, 7⟩ ∧
    UInt64.size ≤ headerSize + (18446744073709551615 : UInt64).toNat ∧
    Curtailed ⟨1, 7⟩ 1 18446744073709551615 := by
  have made : forBody 1 4 = .ok ⟨1, 12⟩ := rfl
  have fits : headerSize + (4 : UInt64).toNat < UInt64.size := by decide
  have describes := ((describes_unless_wrapped 1 4).2 _ made).1 fits
  have made' : forBody 1 18446744073709551615 = .ok ⟨1, 7⟩ := rfl
  have wraps : UInt64.size ≤ headerSize + (18446744073709551615 : UInt64).toNat := by decide
  have curtailed := ((describes_unless_wrapped 1 18446744073709551615).2 _ made').2 wraps
  exact ⟨made, fits, describes.accepted 1024 0 [5, 6, 7, 8] (by decide) (by decide),
    describes.lacking 1024 0 [5, 6] (by decide) (by decide), made', wraps, curtailed⟩

/-- The sum is not kept from wrapping: the greatest size of a body has a header though its record
fits no length field, and this header says less than its own size. -/
theorem not_forall_describes :
    (¬∀ version bodySize, (∃ header, forBody version bodySize = .ok header) ↔
      headerSize + bodySize.toNat ≤ 2147483647) ∧
    ¬∀ version bodySize header, forBody version bodySize = .ok header →
      header.Describes version bodySize.toNat := by
  have made : forBody 1 18446744073709551615 = .ok ⟨1, 7⟩ := rfl
  constructor
  · intro made_iff
    exact absurd ((made_iff _ _).mp ⟨_, made⟩) (by decide)
  · intro describes
    exact absurd (describes _ _ _ made).whole (by decide)

end Header

end TabletRecords.Wire
