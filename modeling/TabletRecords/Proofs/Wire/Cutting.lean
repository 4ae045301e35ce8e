import TabletRecords.Proofs.Wire.Decoder
import TabletRecords.Proofs.Wire.Framing

/-!
Cutting bytes off. Where a read succeeds and then bytes are cut off at the end, it either takes in
the same value still, since it had not come to the cut, or it says that bytes are missing. It never
takes in something else, so the bytes of a body without their end are no body.
-/
namespace TabletRecords.Wire

open Arena (Account)
open Outcome

def IntakeState.followedBy (state : IntakeState) (content : List UInt8) : IntakeState :=
  { state with cursor.rest := content }

def Intake.Lacks {α : Type} (read : Intake α) (state : IntakeState) : Prop :=
  ∃ needed remaining after, read state = .error (.wire (.tooSmall needed remaining)) after

/-- A read does not depend on bytes behind what it takes, and lacks what is cut off of that. -/
def Intake.Cuts {α : Type} (read : Intake α) : Prop :=
  ∀ (before : IntakeState) (content lost : List UInt8) (value : α) (after : IntakeState),
    before.cursor.rest = content ++ lost → read before = .ok value after →
    (∃ kept, after.cursor.rest = kept ++ lost ∧
      read (before.followedBy content) = .ok value (after.followedBy kept)) ∨
    read.Lacks (before.followedBy content)

namespace Intake

variable {α β : Type}

theorem pure_cuts (value : α) : Cuts (pure value) := by
  intro before content lost value after rest done
  cases done
  exact .inl ⟨content, rest, rfl⟩

theorem refuse_cuts (error : Error) : Cuts (refuse error : Intake α) := by
  intro before content lost value after rest done
  cases done

theorem Cuts.bind {read : Intake α} {next : α → Intake β} (cuts : read.Cuts)
    (later : ∀ value, (next value).Cuts) : Cuts (read >>= next) := by
  intro before content lost result after rest done
  obtain ⟨value, middle, first, done⟩ := bind_eq_ok_iff.mp done
  rcases cuts _ _ _ _ _ rest first with ⟨kept, rest, first⟩ | ⟨needed, remaining, state, short⟩
  · rcases later value _ _ _ _ _ rest done with ⟨kept', rest', second⟩ | ⟨needed, remaining, state, short⟩
    · exact .inl ⟨kept', rest', bind_eq_ok_iff.mpr ⟨value, _, first, second⟩⟩
    · exact .inr ⟨needed, remaining, state, bind_eq_error_iff.mpr (.inr ⟨value, _, first, short⟩)⟩
  · exact .inr ⟨needed, remaining, state, bind_eq_error_iff.mpr (.inl short)⟩

theorem take_cuts (width : Nat) : Cuts (ofReader (Reader.take width)) := by
  intro before content lost bytes after rest done
  obtain ⟨cursor, taken, rfl⟩ := ofReader_eq_ok_iff.mp done
  obtain ⟨rfl, rest', moved⟩ := (Reader.take_exact width).eq_ok_iff.mp taken
  rw [rest, id] at rest'
  by_cases short : content.length < bytes.length
  · refine .inr ⟨bytes.length, content.length, before.followedBy content, ?_⟩
    simp [ofReader, Reader.take, Cursor.remaining, IntakeState.followedBy, short]
  · obtain ⟨kept, rfl⟩ : bytes <+: content :=
      List.prefix_of_prefix_length_le ⟨_, rest'.symm⟩ (List.prefix_append _ _) (Nat.not_lt.mp short)
    rw [List.append_assoc, List.append_cancel_left_eq] at rest'
    refine .inl ⟨kept, rest'.symm, ofReader_eq_ok_iff.mpr ⟨⟨kept, cursor.position⟩, ?_, rfl⟩⟩
    exact (Reader.take_exact _).eq_ok_iff.mpr ⟨rfl, rfl, moved⟩

theorem count_cuts (least : Nat) : Cuts (ofReader (Reader.count least)) := by
  simp only [Reader.count, Reader.uint32, Reader.number, bind_map_left, ofReader_bind, throw_bind]
  refine (take_cuts 4).bind fun bytes => ?_
  intro before content lost n after rest done
  obtain ⟨left, middle, remaining, done⟩ := bind_eq_ok_iff.mp done
  cases remaining
  let needed := min ((UInt32.ofNat (BigEndian.value bytes)).toNat * least) sizeMax
  have enough : ¬before.cursor.remaining < needed := by
    intro short
    rw [if_pos short] at done
    cases done
  rw [if_neg enough] at done
  cases done
  by_cases short : content.length < needed
  · refine .inr ⟨needed, content.length, before.followedBy content, ?_⟩
    show ofReader (if content.length < needed then _ else _) (before.followedBy content) = _
    rw [if_pos short]
    rfl
  · refine .inl ⟨content, rest, ?_⟩
    show ofReader (if content.length < needed then _ else _) (before.followedBy content) = _
    rw [if_neg short]
    rfl

theorem charge_cuts (size : Nat) : Cuts (charge size) := by
  intro before content lost u after rest done
  unfold charge at done ⊢
  cases charged : before.account.charge size with
  | error refusal =>
    rw [charged] at done
    cases done
  | ok account =>
    rw [charged] at done
    cases done
    refine .inl ⟨content, rest, ?_⟩
    simp only [IntakeState.followedBy, charged]

end Intake

theorem Decoder.run_cuts {α : Type} (decoder : Decoder α) : decoder.run.Cuts := by
  induction decoder with
  | done value => exact Intake.pure_cuts value
  | refuse error => exact Intake.refuse_cuts error
  | array width next ih => exact (Intake.take_cuts width).bind ih
  | count least memory small next ih => exact (Intake.count_cuts least).bind ih
  | charge size next ih => exact (Intake.charge_cuts size).bind fun _ => ih

end TabletRecords.Wire
