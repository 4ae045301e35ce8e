import Mathlib.Logic.Relation
import TabletRecords.Proofs.Building
import TabletRecords.Proofs.Session.Changes
import TabletRecords.Proofs.Wire.Encoders

/-!
Advancing sequences. However a sequence is made, it names no column twice, so it is a map from
columns to the values that they hand out next. Advancing it moves one of these values forward, and
along every chain of sequences that are advanced, copied and reloaded no value goes back and no
column is lost.
-/
namespace TabletRecords.Autoincrement.Sequence

open Arena (Account ArenaId Ledger)
open Charging Outcome
open Relation (ReflTransGen)
open Wire.Format (Encodes)

variable {sequence advanced : Sequence} {columnId nextValue : UInt64}

section Lookup

theorem mem_columns_of_next? {current : UInt64} (known : sequence.next? columnId = some current) :
    columnId ∈ sequence.columns := by
  obtain ⟨interval, found, -⟩ := Option.map_eq_some_iff.mp known
  have own : interval.columnId = columnId := by simpa using List.find?_some found
  exact List.mem_map.mpr ⟨interval, List.mem_of_find?_eq_some found, own⟩

theorem next?_setNext (intervals : List Interval) (columnId nextValue other : UInt64) :
    next? ⟨setNext intervals columnId nextValue⟩ other =
      if other = columnId then (next? ⟨intervals⟩ columnId).map fun _ => nextValue
      else next? ⟨intervals⟩ other := by
  have named : ∀ interval : Interval, (if interval.columnId = columnId then
      (⟨columnId, nextValue⟩ : Interval) else interval).columnId = interval.columnId := by
    intro interval
    split
    · next same => exact same.symm
    · rfl
  unfold next? setNext
  simp only [List.find?_map, Function.comp_def, named, Option.map_map]
  split
  · next same =>
    rw [same]
    cases found : intervals.find? fun interval => interval.columnId = columnId with
    | none => rfl
    | some interval =>
      have own : interval.columnId = columnId := by simpa using List.find?_some found
      simp [own]
  · next different =>
    cases found : intervals.find? fun interval => interval.columnId = other with
    | none => rfl
    | some interval =>
      have own : interval.columnId = other := by simpa using List.find?_some found
      simp [own, different]

theorem next?_append (intervals : List Interval) (interval : Interval) (other : UInt64) :
    next? ⟨intervals ++ [interval]⟩ other =
      (next? ⟨intervals⟩ other).or
        (if interval.columnId = other then some interval.nextValue else none) := by
  unfold next?
  rw [List.find?_append, Option.map_or, List.find?_singleton]
  by_cases same : interval.columnId = other <;> simp [same]

end Lookup

def Exceeds (sequence : Sequence) (columnId nextValue : UInt64) : Prop :=
  ∃ current, sequence.next? columnId = some current ∧ nextValue < current

def columnsWith (sequence : Sequence) (columnId : UInt64) : List UInt64 :=
  if columnId ∈ sequence.columns then sequence.columns else sequence.columns ++ [columnId]

/-- What advancing a column makes of a sequence. -/
structure Advances (sequence : Sequence) (columnId nextValue : UInt64) (advanced : Sequence) :
    Prop where
  next?_self : advanced.next? columnId = some nextValue
  next?_of_ne : ∀ other, other ≠ columnId → advanced.next? other = sequence.next? other
  columns : advanced.columns = sequence.columnsWith columnId

theorem advances_of_advance (done : sequence.advance columnId nextValue = .ok advanced) :
    sequence.Advances columnId nextValue advanced := by
  unfold advance at done
  cases known : sequence.next? columnId with
  | none =>
    simp only [known] at done
    cases done
    have unknown := not_mem_columns_of_next? known
    constructor
    · rw [next?_append, known, Option.none_or, if_pos rfl]
    · intro other different
      rw [next?_append, if_neg (Ne.symm different), Option.or_none]
    · rw [columnsWith, if_neg unknown]
      simp [columns]
  | some current =>
    simp only [known] at done
    split at done <;> cases done
    constructor
    · rw [next?_setNext, if_pos rfl, known]
      rfl
    · intro other different
      rw [next?_setNext, if_neg different]
    · rw [columns_setNext, columnsWith, if_pos (mem_columns_of_next? known)]

theorem exists_error_of_advance_iff :
    (∃ fault, sequence.advance columnId nextValue = .error fault) ↔
      sequence.Exceeds columnId nextValue := by
  unfold advance Exceeds
  cases sequence.next? columnId with
  | none => simp
  | some current =>
    by_cases back : nextValue < current <;> simp [back]

theorem isInvariant_of_advance {fault : Fault}
    (failed : sequence.advance columnId nextValue = .error fault) :
    ∃ cause, fault = .invariant cause := by
  unfold advance at failed
  split at failed
  · cases failed
  · split at failed <;> cases failed
    exact ⟨_, rfl⟩

theorem exists_advance (ahead : ¬sequence.Exceeds columnId nextValue) :
    ∃ advanced, sequence.advance columnId nextValue = .ok advanced := by
  cases done : sequence.advance columnId nextValue with
  | ok advanced => exact ⟨advanced, rfl⟩
  | error fault => exact absurd (exists_error_of_advance_iff.mp ⟨fault, done⟩) ahead

/-! ## Advancing in an arena -/

variable {arena : ArenaId} {before after : Ledger}

theorem withNext_eq_invariant_iff :
    (∃ cause after, sequence.withNext columnId nextValue arena before =
      .error (.invariant cause) after) ↔ sequence.Exceeds columnId nextValue := by
  rw [← exists_error_of_advance_iff]
  simp only [withNext, bind_eq_error_iff, ofExcept_eq_error_iff, ofExcept_eq_ok_iff]
  constructor
  · rintro ⟨cause, after, ⟨refused, -⟩ | ⟨advanced, _, -, failed⟩⟩
    · exact ⟨_, refused⟩
    · -- Holding the advanced sequence fails for lack of room only.
      rcases error_of_holding failed with ⟨refusal, h⟩ | ⟨_, _, h⟩ <;> cases h
  · rintro ⟨fault, refused⟩
    obtain ⟨cause, rfl⟩ := isInvariant_of_advance refused
    exact ⟨cause, before, .inl ⟨refused, rfl⟩⟩

theorem exists_withNext (ahead : ¬sequence.Exceeds columnId nextValue)
    (room : before.used arena + 16 * (sequence.columnsWith columnId).length ≤
      (before.account arena).limit) :
    ∃ advanced, sequence.withNext columnId nextValue arena before =
        .ok ⟨advanced, some arena⟩ (before.set arena { before.account arena with
          used := before.used arena + 16 * (sequence.columnsWith columnId).length }) ∧
      sequence.Advances columnId nextValue advanced := by
  obtain ⟨advanced, done⟩ := exists_advance ahead
  have advances := advances_of_advance done
  have memory : format.footprint advanced = 16 * (sequence.columnsWith columnId).length := by
    rw [footprint_eq, ← advances.columns, columns, List.length_map, Nat.mul_comm]
  refine ⟨advanced, withNext_eq_ok_iff.mpr ⟨advanced, done, rfl, _, ?_, rfl⟩, advances⟩
  rw [← memory] at room ⊢
  exact Account.chargeAll_of_room room

/-! ## Chains of sequences -/

/-- A later sequence has the columns of an earlier one in their places, with values that have not
gone back. -/
structure Follows (earlier later : Sequence) : Prop where
  columns : earlier.columns <+: later.columns
  next? : ∀ columnId current, earlier.next? columnId = some current →
    ∃ value, later.next? columnId = some value ∧ current ≤ value

theorem Follows.refl (sequence : Sequence) : sequence.Follows sequence where
  columns := List.prefix_refl _
  next? _ current known := ⟨current, known, UInt64.le_refl current⟩

theorem Follows.trans {first second third : Sequence} (follows : first.Follows second)
    (follows' : second.Follows third) : first.Follows third where
  columns := follows.columns.trans follows'.columns
  next? columnId current known := by
    obtain ⟨middle, known, le⟩ := follows.next? columnId current known
    obtain ⟨value, known, le'⟩ := follows'.next? columnId middle known
    exact ⟨value, known, UInt64.le_trans le le'⟩

theorem Advances.follows (advances : sequence.Advances columnId nextValue advanced)
    (ahead : ¬sequence.Exceeds columnId nextValue) : sequence.Follows advanced where
  columns := by
    rw [advances.columns, columnsWith]
    split
    · exact List.prefix_refl _
    · exact List.prefix_append _ _
  next? other current known := by
    by_cases same : other = columnId
    · rw [same] at known ⊢
      refine ⟨nextValue, advances.next?_self, UInt64.not_lt.mp fun back => ?_⟩
      exact ahead ⟨current, known, back⟩
    · exact ⟨current, (advances.next?_of_ne other same).trans known, UInt64.le_refl current⟩

inductive Link (sequence : Sequence) : Sequence → Prop
  | advanced {columnId nextValue : UInt64} {arena : ArenaId} {before after : Ledger}
      {held : Held Sequence}
      (done : sequence.withNext columnId nextValue arena before = .ok held after) :
      Link sequence held.value
  | copied {arena : ArenaId} {before after : Ledger} {held : Held Sequence}
      (done : hold format sequence arena before = .ok held after) : Link sequence held.value
  | reloaded {bytes rest : List UInt8} {arena : ArenaId} {before after : Ledger}
      {held : Held Sequence} (written : Encodes.Written format sequence bytes)
      (done : receive format (bytes ++ rest) arena before = .ok held after) :
      Link sequence held.value

inductive Made : Sequence → Prop
  | empty : Made {}
  | ofIntervals {intervals : List Interval} {arena : ArenaId} {before after : Ledger}
      {held : Held Sequence}
      (done : Sequence.ofIntervals intervals arena before = .ok held after) : Made held.value
  | received {bytes : List UInt8} {arena : ArenaId} {before after : Ledger} {held : Held Sequence}
      (done : receive format bytes arena before = .ok held after) : Made held.value
  | linked {sequence next : Sequence} (made : Made sequence) (link : sequence.Link next) : Made next

theorem isValid_of_receive {bytes : List UInt8} {held : Held Sequence}
    (done : receive format bytes arena before = .ok held after) : held.value.isValid := by
  obtain ⟨_, _, _, rfl, legal, -⟩ := (receive_eq_ok_iff format_lawful).mp done
  exact legal.isValid

theorem Link.isValid {next : Sequence} (link : sequence.Link next) (valid : sequence.isValid) :
    next.isValid := by
  cases link with
  | advanced done =>
    obtain ⟨advanced, accepted, rfl, -⟩ := withNext_eq_ok_iff.mp done
    exact isValid_of_advance valid accepted
  | copied done =>
    obtain ⟨rfl, -⟩ := hold_eq_ok_iff.mp done
    exact valid
  | reloaded written done => exact isValid_of_receive done

theorem Made.isValid (made : Made sequence) : sequence.isValid := by
  induction made with
  | empty => rfl
  | ofIntervals done =>
    obtain ⟨valid, rfl, -⟩ := ofIntervals_eq_ok_iff.mp done
    exact valid
  | received done => exact isValid_of_receive done
  | linked made link ih => exact link.isValid ih

theorem Link.follows {next : Sequence} (link : sequence.Link next) (valid : sequence.isValid) :
    sequence.Follows next := by
  cases link with
  | advanced done =>
    obtain ⟨advanced, accepted, rfl, -⟩ := withNext_eq_ok_iff.mp done
    refine (advances_of_advance accepted).follows fun exceeds => ?_
    obtain ⟨fault, refused⟩ := exists_error_of_advance_iff.mpr exceeds
    rw [accepted] at refused
    cases refused
  | copied done =>
    obtain ⟨rfl, -⟩ := hold_eq_ok_iff.mp done
    exact .refl _
  | reloaded written done =>
    obtain ⟨short, rfl⟩ := (Encodes.written_iff format).mp written
    have legal : sequence.Legal := ⟨valid, short _ List.mem_cons_self⟩
    rw [value_of_receive format_lawful legal done]
    exact .refl _

theorem Made.follows {later : Sequence} (made : Made sequence)
    (chain : ReflTransGen Link sequence later) : Made later ∧ sequence.Follows later := by
  induction chain with
  | refl => exact ⟨made, .refl _⟩
  | tail _ link ih =>
    obtain ⟨made, follows⟩ := ih
    exact ⟨.linked made link, follows.trans (link.follows made.isValid)⟩

/-! ## Sequences of a session -/

theorem find?_step_withNext {session : Session} {target name : String} (source payer : String)
    (columnId nextValue : UInt64) (different : name ≠ target) :
    (session.step (.withNext target source payer columnId nextValue)).2.find? name =
      session.find? name := by
  apply Session.find?_step_of_ends
  refine (Session.Script.arena_offers payer).bind fun arena _ => ?_
  refine (Session.Script.want_reads source _).bind fun sequence _ => ?_
  exact Session.Script.charging_spares .autoincrement
    (withNext_accounts sequence columnId nextValue arena).restores
    (fun _ _ => Session.Script.store_inserts _ _ _) different

/-- No value moves back. However a sequence has been made, it names no column twice. It refuses to
advance a column just where that has a greater value already. Otherwise, and as far as its arena has
room for the intervals of the result, one interval changes or is added at the end, and what is there
stays as it is. Along every chain of sequences that are advanced, copied and reloaded the columns
stay and their values ascend. -/
theorem values_never_move_back (made : Made sequence) :
    sequence.columns.Nodup ∧
    (∀ columnId nextValue arena before,
      ((∃ cause after, sequence.withNext columnId nextValue arena before =
        .error (.invariant cause) after) ↔ sequence.Exceeds columnId nextValue) ∧
      (¬sequence.Exceeds columnId nextValue →
        before.used arena + 16 * (sequence.columnsWith columnId).length ≤
          (before.account arena).limit →
        ∃ advanced, sequence.withNext columnId nextValue arena before =
            .ok ⟨advanced, some arena⟩ (before.set arena { before.account arena with
              used := before.used arena + 16 * (sequence.columnsWith columnId).length }) ∧
          sequence.Advances columnId nextValue advanced)) ∧
    (∀ (session : Session) (target name source payer : String) (columnId nextValue : UInt64),
      name ≠ target →
      (session.step (.withNext target source payer columnId nextValue)).2.find? name =
        session.find? name) ∧
    ∀ later, ReflTransGen Link sequence later → later.columns.Nodup ∧ sequence.Follows later := by
  refine ⟨of_decide_eq_true made.isValid, ?_, ?_, ?_⟩
  · intro columnId nextValue arena before
    exact ⟨withNext_eq_invariant_iff, exists_withNext⟩
  · intro session target name source payer columnId nextValue different
    exact find?_step_withNext source payer columnId nextValue different
  · intro later chain
    obtain ⟨made', follows⟩ := made.follows chain
    exact ⟨of_decide_eq_true made'.isValid, follows⟩

def pair : Sequence := ⟨[⟨3, 10⟩, ⟨5, 7⟩]⟩

theorem made_pair : Made pair :=
  .ofIntervals (rfl : ofIntervals pair.intervals ⟨0⟩ .empty = .ok ⟨pair, some ⟨0⟩⟩ _)

theorem values_never_move_back_pair :
    Made pair ∧
    (∃ cause after, pair.withNext 3 9 ⟨0⟩ .empty = .error (.invariant cause) after) ∧
    (∃ advanced after, pair.withNext 8 1 ⟨0⟩ .empty = .ok ⟨advanced, some ⟨0⟩⟩ after ∧
      pair.Advances 8 1 advanced ∧ after.used ⟨0⟩ = 16 * 3) ∧
    pair.Follows ⟨[⟨3, 10⟩, ⟨5, 9⟩]⟩ := by
  obtain ⟨-, advances, -, chains⟩ := values_never_move_back made_pair
  refine ⟨made_pair, ?_, ?_, ?_⟩
  · exact (advances 3 9 ⟨0⟩ .empty).1.mpr ⟨10, rfl, by decide⟩
  · have new : ¬pair.Exceeds 8 1 := by
      rintro ⟨current, known, -⟩
      cases known
    obtain ⟨advanced, done, held⟩ := (advances 8 1 ⟨0⟩ .empty).2 new (by decide)
    exact ⟨advanced, _, done, held, rfl⟩
  · have advanced : pair.Link ⟨[⟨3, 10⟩, ⟨5, 9⟩]⟩ :=
      .advanced (rfl : pair.withNext 5 9 ⟨0⟩ .empty = .ok ⟨⟨[⟨3, 10⟩, ⟨5, 9⟩]⟩, some ⟨0⟩⟩ _)
    have copied : Link ⟨[⟨3, 10⟩, ⟨5, 9⟩]⟩ ⟨[⟨3, 10⟩, ⟨5, 9⟩]⟩ :=
      .copied (rfl : hold format _ ⟨1⟩ .empty = .ok ⟨⟨[⟨3, 10⟩, ⟨5, 9⟩]⟩, some ⟨1⟩⟩ _)
    exact (chains _ (.tail (.single advanced) copied)).2

end TabletRecords.Autoincrement.Sequence
