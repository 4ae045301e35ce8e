import TabletRecords.Proofs.Wire.Lawful

/-!
Scalars: words, truth values, tags, and values that may be absent. Every one of them is read back
from its bytes.
-/
namespace TabletRecords.Wire.Format

open Arena (Account)
open Outcome

variable {α : Type}

theorem uint64_lawful : uint64.Lawful (fun _ => True) :=
  .plain Reader.uint64_exact (fun _ => BigEndian.length_digits 8 _)

theorem int32_lawful : int32.Lawful (fun _ => True) :=
  .plain Reader.int32_exact (fun _ => BigEndian.length_digits 4 _)

theorem int64_lawful : int64.Lawful (fun _ => True) :=
  .plain Reader.int64_exact (fun _ => BigEndian.length_digits 8 _)

theorem bool_lawful : bool.Lawful (fun _ => True) :=
  .plain Reader.bool_exact (fun _ => rfl)

theorem tagged_lawful [DecidableEq α] [Tagged α] : (tagged α).Lawful (fun _ => True) :=
  .plain Reader.tagged_exact (fun _ => rfl)

namespace Lawful

variable {format : Format α} {legal : α → Prop}

theorem optional (lawful : format.Lawful legal) :
    format.optional.Lawful (fun value? => ∀ value ∈ value?, legal value) where
  length_bytes := by
    rintro (_ | value)
    · rfl
    · simp [Format.optional, bool, Format.plain, lawful.length_bytes, Nat.add_comm]
  read_eq_ok_iff := by
    intro before value? after
    simp only [Format.optional, bind_eq_ok_iff, bool_lawful.read_eq_ok_iff]
    constructor
    · rintro ⟨present, middle, ⟨-, mark⟩, later⟩
      cases present with
      | false =>
        cases later
        exact ⟨by simp, mark⟩
      | true =>
        obtain ⟨value, _, taken, h⟩ := bind_eq_ok_iff.mp later
        cases h
        obtain ⟨hlegal, taken⟩ := lawful.read_eq_ok_iff.mp taken
        exact ⟨by simpa using hlegal, IntakeState.takes_append.mpr ⟨middle, mark, taken⟩⟩
    · rintro ⟨hlegal, taken⟩
      cases value? with
      | none => exact ⟨false, after, ⟨trivial, taken⟩, rfl⟩
      | some value =>
        replace taken : before.Takes (bool.bytes true ++ format.bytes value)
            ([] ++ format.charges value) after := taken
        obtain ⟨middle, mark, taken⟩ := IntakeState.takes_append.mp taken
        exact ⟨true, middle, ⟨trivial, mark⟩, bind_eq_ok_iff.mpr
          ⟨value, after, lawful.read_eq_ok_iff.mpr ⟨hlegal value rfl, taken⟩, rfl⟩⟩
  grows := by
    intro before error after failed
    simp only [Format.optional, bind_eq_error_iff] at failed
    rcases failed with failed | ⟨present, middle, mark, later⟩
    · exact bool_lawful.grows failed
    · refine (bool_lawful.read_eq_ok_iff.mp mark).2.grows.trans ?_
      cases present with
      | false => cases later
      | true =>
        rcases bind_eq_error_iff.mp later with failed | ⟨_, _, -, h⟩
        · exact lawful.grows failed
        · cases h

end Lawful

end TabletRecords.Wire.Format
