import TabletRecords.Proofs.Arena.Charges
import TabletRecords.Proofs.Wire.Reading

/-!
Lawful formats. A format is lawful when its read succeeds on exactly the bytes of legal values, with
room in the account for their lists, and when a read that fails has only added to what is charged.
Both round trips follow: what is written is read back, and what is read is written the same again.
Every way to compose formats keeps the law.
-/
namespace TabletRecords.Wire

open Arena (Account total total_append listCharges)
open Outcome

namespace IntakeState

/-- The read has moved over these bytes and has charged these lists. -/
structure Takes (before : IntakeState) (bytes : List UInt8) (charges : List Nat)
    (after : IntakeState) : Prop where
  cursor : before.cursor.Passes bytes after.cursor
  account : before.account.chargeAll charges = .ok after.account
  charged : after.charged = before.charged + total charges

def Grows (before after : IntakeState) : Prop :=
  ∃ charges, before.account.chargeAll charges = .ok after.account ∧
    after.charged = before.charged + total charges

variable {before middle after : IntakeState}

theorem takes_nil : before.Takes [] [] after ↔ before = after := by
  constructor
  · rintro ⟨cursor, account, charged⟩
    cases before
    cases after
    rw [Cursor.passes_nil] at cursor
    rw [Account.chargeAll_nil_eq_ok_iff] at account
    simp_all
  · rintro rfl
    exact ⟨Cursor.passes_nil.mpr rfl, Account.chargeAll_nil_eq_ok_iff.mpr rfl, rfl⟩

theorem takes_append {first second : List UInt8} {charges charges' : List Nat} :
    before.Takes (first ++ second) (charges ++ charges') after ↔
      ∃ middle, before.Takes first charges middle ∧ Takes middle second charges' after := by
  constructor
  · rintro ⟨cursor, account, charged⟩
    obtain ⟨cursor', passes, passes'⟩ := Cursor.passes_append.mp cursor
    obtain ⟨account', charges, charges'⟩ := Account.chargeAll_append_eq_ok_iff.mp account
    refine ⟨⟨cursor', account', before.charged + total _⟩, ⟨passes, charges, rfl⟩, passes',
      charges', ?_⟩
    rw [charged, total_append, Nat.add_assoc]
  · rintro ⟨middle, ⟨passes, account, charged⟩, passes', account', charged'⟩
    refine ⟨Cursor.passes_append.mpr ⟨_, passes, passes'⟩,
      Account.chargeAll_append_eq_ok_iff.mpr ⟨_, account, account'⟩, ?_⟩
    rw [charged', charged, total_append, Nat.add_assoc]

theorem Takes.grows {bytes : List UInt8} {charges : List Nat}
    (takes : before.Takes bytes charges after) : before.Grows after :=
  ⟨charges, takes.account, takes.charged⟩

theorem Grows.refl (state : IntakeState) : state.Grows state :=
  ⟨[], Account.chargeAll_nil_eq_ok_iff.mpr rfl, rfl⟩

theorem Grows.trans (first : before.Grows middle) (second : middle.Grows after) :
    before.Grows after := by
  obtain ⟨charges, account, charged⟩ := first
  obtain ⟨charges', account', charged'⟩ := second
  refine ⟨charges ++ charges', Account.chargeAll_append_eq_ok_iff.mpr ⟨_, account, account'⟩, ?_⟩
  rw [charged', charged, total_append, Nat.add_assoc]

theorem Grows.undone (grows : before.Grows after) (fresh : before.charged = 0) :
    after.undone = before.account := by
  obtain ⟨charges, account, charged⟩ := grows
  rw [IntakeState.undone, charged, fresh, Nat.zero_add, Account.release_of_chargeAll account]

end IntakeState

variable {α β : Type}

/-- A format whose reads take in exactly the bytes of legal values. -/
structure Format.Lawful (format : Format α) (legal : α → Prop) : Prop where
  length_bytes : ∀ value, (format.bytes value).length = format.size value
  read_eq_ok_iff : ∀ {before value after}, format.read before = .ok value after ↔
    legal value ∧ before.Takes (format.bytes value) (format.charges value) after
  grows : ∀ {before error after}, format.read before = .error error after → before.Grows after

theorem Intake.ofReader_eq_ok_iff {read : Reader α} {before after : IntakeState} {value : α} :
    ofReader read before = .ok value after ↔
      ∃ cursor, read before.cursor = .ok value cursor ∧ { before with cursor } = after := by
  unfold ofReader
  cases read before.cursor with
  | ok value' cursor =>
    constructor
    · intro h
      cases h
      exact ⟨cursor, rfl, rfl⟩
    · rintro ⟨_, h, rfl⟩
      cases h
      rfl
  | error error cursor => simp

theorem Intake.ofReader_grows {read : Reader α} {before after : IntakeState} {error : IntakeError}
    (failed : ofReader read before = .error error after) : before.Grows after := by
  unfold ofReader at failed
  split at failed <;> cases failed
  exact .refl before

theorem Reader.Exact.ofReader_eq_ok_iff {read : Reader α} {bytes : α → List UInt8}
    {legal : α → Prop} (exact : read.Exact bytes legal) {before after : IntakeState} {value : α} :
    Intake.ofReader read before = .ok value after ↔
      legal value ∧ before.Takes (bytes value) [] after := by
  rw [Intake.ofReader_eq_ok_iff]
  constructor
  · rintro ⟨cursor, taken, rfl⟩
    obtain ⟨hlegal, passes⟩ := exact.eq_ok_iff.mp taken
    exact ⟨hlegal, passes, Account.chargeAll_nil_eq_ok_iff.mpr rfl, rfl⟩
  · rintro ⟨hlegal, passes, account, charged⟩
    refine ⟨_, exact.eq_ok_iff.mpr ⟨hlegal, passes⟩, ?_⟩
    rw [Account.chargeAll_nil_eq_ok_iff] at account
    cases before
    cases after
    simp_all

namespace Format.Lawful

variable {format : Format α} {legal legal' : α → Prop}

theorem eq_of_bytes_append (lawful : format.Lawful legal) {first second : α} {rest rest' : List UInt8}
    (hlegal : legal first) (hlegal' : legal second)
    (same : format.bytes first ++ rest = format.bytes second ++ rest') : first = second := by
  let account : Account :=
    { label := "", limit := total (format.charges first) + total (format.charges second) }
  have reads : ∀ value rest, legal value → total (format.charges value) ≤ account.limit →
      ∃ after, format.read { cursor := .start (format.bytes value ++ rest), account } =
        .ok value after := by
    intro value rest hlegal room
    refine ⟨⟨⟨rest, 0 + (format.bytes value).length⟩, _, 0 + total (format.charges value)⟩,
      lawful.read_eq_ok_iff.mpr ⟨hlegal, ⟨rfl, rfl⟩, Account.chargeAll_of_room ?_, rfl⟩⟩
    rwa [Nat.zero_add]
  obtain ⟨after, read⟩ := reads first rest hlegal (Nat.le_add_right _ _)
  obtain ⟨after', read'⟩ := reads second rest' hlegal' (Nat.le_add_left _ _)
  rw [same, read'] at read
  cases read
  rfl

theorem congr (lawful : format.Lawful legal) (legal_iff : ∀ value, legal value ↔ legal' value) :
    format.Lawful legal' where
  length_bytes := lawful.length_bytes
  read_eq_ok_iff := by
    intro before value after
    rw [lawful.read_eq_ok_iff, legal_iff]
  grows := lawful.grows

theorem plain {bytes : α → List UInt8} {size : α → Nat} {read : Reader α}
    (exact : read.Exact bytes legal) (length_bytes : ∀ value, (bytes value).length = size value) :
    (Format.plain bytes size read).Lawful legal where
  length_bytes := length_bytes
  read_eq_ok_iff := exact.ofReader_eq_ok_iff
  grows := Intake.ofReader_grows

theorem pair {second : Format β} {legal₂ : β → Prop} (lawful : format.Lawful legal)
    (lawful₂ : second.Lawful legal₂) :
    (format.pair second).Lawful (fun value => legal value.1 ∧ legal₂ value.2) where
  length_bytes := by
    intro value
    rw [Format.pair, List.length_append, lawful.length_bytes, lawful₂.length_bytes]
  read_eq_ok_iff := by
    rintro before ⟨a, b⟩ after
    simp only [Format.pair, bind_eq_ok_iff, lawful.read_eq_ok_iff, lawful₂.read_eq_ok_iff,
      IntakeState.takes_append, pure_apply]
    constructor
    · rintro ⟨a, middle, ⟨hlegal, taken⟩, b, _, ⟨hlegal₂, taken₂⟩, h⟩
      cases h
      exact ⟨⟨hlegal, hlegal₂⟩, middle, taken, taken₂⟩
    · rintro ⟨⟨hlegal, hlegal₂⟩, middle, taken, taken₂⟩
      exact ⟨a, middle, ⟨hlegal, taken⟩, b, after, ⟨hlegal₂, taken₂⟩, rfl⟩
  grows := by
    intro before error after failed
    simp only [Format.pair, bind_eq_error_iff] at failed
    rcases failed with failed | ⟨a, middle, taken, failed | ⟨b, _, -, h⟩⟩
    · exact lawful.grows failed
    · exact (lawful.read_eq_ok_iff.mp taken).2.grows.trans (lawful₂.grows failed)
    · cases h

theorem refine {accept : α → Except Error β} {stored : β → α} (lawful : format.Lawful legal)
    (stored_eq : ∀ {raw value}, accept raw = .ok value → stored value = raw) :
    (format.refine accept stored).Lawful
      (fun value => legal (stored value) ∧ accept (stored value) = .ok value) where
  length_bytes value := lawful.length_bytes (stored value)
  read_eq_ok_iff := by
    intro before value after
    simp only [Format.refine, bind_eq_ok_iff, lawful.read_eq_ok_iff]
    constructor
    · rintro ⟨raw, middle, ⟨hlegal, taken⟩, later⟩
      cases accepted : accept raw with
      | error error =>
        rw [accepted] at later
        cases later
      | ok found =>
        rw [accepted] at later
        cases later
        rw [stored_eq accepted]
        exact ⟨⟨hlegal, accepted⟩, taken⟩
    · rintro ⟨⟨hlegal, accepted⟩, taken⟩
      refine ⟨stored value, after, ⟨hlegal, taken⟩, ?_⟩
      rw [accepted]
      rfl
  grows := by
    intro before error after failed
    simp only [Format.refine, bind_eq_error_iff] at failed
    rcases failed with failed | ⟨raw, middle, taken, later⟩
    · exact lawful.grows failed
    · have grows := (lawful.read_eq_ok_iff.mp taken).2.grows
      cases accepted : accept raw with
      | error error =>
        rw [accepted] at later
        cases later
        exact grows
      | ok found =>
        rw [accepted] at later
        cases later

theorem map (lawful : format.Lawful legal) (pack : α → β) (unpack : β → α)
    (unpack_pack : ∀ stored, unpack (pack stored) = stored)
    (pack_unpack : ∀ value, pack (unpack value) = value) :
    (format.map pack unpack).Lawful (fun value => legal (unpack value)) := by
  refine (lawful.refine ?_).congr ?_
  · intro raw value h
    cases h
    exact unpack_pack raw
  · intro value
    simp [pack_unpack]

end Format.Lawful

end TabletRecords.Wire
