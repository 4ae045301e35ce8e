import TabletRecords.Proofs.Wire.Guarded

/-!
Encoders. An encoder is a writing as data: the bytes of one number after another, and the counts of
the lists, each of which is expected to fit its field. Formats have encoders as they have decoders.
-/
namespace TabletRecords.Wire

open Outcome

inductive Put where
  | piece (bytes : List UInt8)
  | count (n : Nat)

namespace Put

def plain : Put → List UInt8
  | piece bytes => bytes
  | count n => BigEndian.digits 4 n

def count? : Put → Option Nat
  | piece _ => none
  | count n => some n

/-- The bytes that are put down, unless there is a count that does not fit. -/
def run : Put → Checked (List UInt8)
  | piece bytes => .ok bytes
  | count n => Checked.expect (if n < 0x100000000 then some (BigEndian.digits 4 n) else none)

theorem run_eq_ok_iff {put : Put} {bytes : List UInt8} :
    put.run = .ok bytes ↔ (∀ n ∈ put.count?, n < 0x100000000) ∧ bytes = put.plain := by
  cases put with
  | piece bytes => simp [run, plain, count?, eq_comm]
  | count n =>
    by_cases small : n < 0x100000000
    · simp [run, plain, count?, small, Checked.expect, eq_comm]
    · simp [run, count?, small, Checked.expect]

theorem mapM_run_eq_ok_iff {puts : List Put} {pieces : List (List UInt8)} :
    puts.mapM run = .ok pieces ↔
      (∀ n ∈ puts.filterMap count?, n < 0x100000000) ∧ pieces = puts.map plain := by
  induction puts generalizing pieces with
  | nil =>
    rw [List.mapM_nil]
    simp [pure, Except.pure, eq_comm]
  | cons put puts ih =>
    have counts : (∀ n ∈ (put :: puts).filterMap count?, n < 0x100000000) ↔
        (∀ n ∈ put.count?, n < 0x100000000) ∧ ∀ n ∈ puts.filterMap count?, n < 0x100000000 := by
      cases put <;> simp [count?]
    rw [List.mapM_cons, counts]
    simp only [except_bind_eq_ok_iff, run_eq_ok_iff, ih]
    constructor
    · rintro ⟨_, ⟨own, rfl⟩, _, ⟨later, rfl⟩, h⟩
      cases h
      exact ⟨⟨own, later⟩, rfl⟩
    · rintro ⟨⟨own, later⟩, rfl⟩
      exact ⟨_, ⟨own, rfl⟩, _, ⟨later, rfl⟩, rfl⟩

end Put

/-- A format together with the puts of its values, and with the counts of their lists. -/
class Format.Encodes {α : Type} (format : Format α) where
  puts : α → List Put
  counts : α → List Nat
  plain_puts : ∀ value, (puts value).flatMap Put.plain = format.bytes value
  counts_puts : ∀ value, (puts value).filterMap Put.count? = counts value

namespace Format.Encodes

variable {α β : Type}

@[reducible] def plain (bytes : α → List UInt8) (size : α → Nat) (read : Reader α) :
    (Format.plain bytes size read).Encodes where
  puts value := [.piece (bytes value)]
  counts _ := []
  plain_puts value := List.append_nil (bytes value)
  counts_puts _ := rfl

instance uint32 : uint32.Encodes := plain _ _ _

instance uint64 : uint64.Encodes := plain _ _ _

instance int32 : int32.Encodes := plain _ _ _

instance int64 : int64.Encodes := plain _ _ _

instance bool : bool.Encodes := plain _ _ _

instance tagged [DecidableEq α] [Tagged α] : (tagged α).Encodes := plain _ _ _

variable (format : Format α) [format.Encodes]

instance pair (second : Format β) [second.Encodes] : (format.pair second).Encodes where
  puts value := puts format value.1 ++ puts second value.2
  counts value := counts format value.1 ++ counts second value.2
  plain_puts value := by
    rw [List.flatMap_append, plain_puts, plain_puts]
    rfl
  counts_puts value := by rw [List.filterMap_append, counts_puts, counts_puts]

instance refine (accept : α → Except Error β) (stored : β → α) :
    (format.refine accept stored).Encodes where
  puts value := puts format (stored value)
  counts value := counts format (stored value)
  plain_puts value := plain_puts (stored value)
  counts_puts value := counts_puts (stored value)

instance map (pack : α → β) (unpack : β → α) : (format.map pack unpack).Encodes :=
  refine format _ unpack

instance optional : format.optional.Encodes where
  puts
    | none => puts Format.bool false
    | some value => puts Format.bool true ++ puts format value
  counts value? := (value?.map (counts format)).getD []
  plain_puts
    | none => rfl
    | some value => by
      rw [List.flatMap_append, plain_puts, plain_puts]
      rfl
  counts_puts
    | none => rfl
    | some value => by
      rw [List.filterMap_append, counts_puts, counts_puts]
      rfl

instance counted (least memory : Nat) : (format.counted least memory).Encodes where
  puts items := .count items.length :: items.flatMap (puts format)
  counts items := items.length :: items.flatMap (counts format)
  plain_puts items := by
    rw [List.flatMap_cons, List.flatMap_assoc]
    simp only [plain_puts]
    rfl
  counts_puts items := by
    simp only [List.filterMap_cons, Put.count?, List.filterMap_flatMap, counts_puts]

def Written (value : α) (bytes : List UInt8) : Prop :=
  ∃ pieces, (puts format value).mapM Put.run = .ok pieces ∧ pieces.flatten = bytes

theorem written_iff {value : α} {bytes : List UInt8} :
    Written format value bytes ↔
      (∀ n ∈ counts format value, n < 0x100000000) ∧ bytes = format.bytes value := by
  simp only [Written, Put.mapM_run_eq_ok_iff, counts_puts]
  rw [← plain_puts value, List.flatMap_def]
  constructor
  · rintro ⟨_, ⟨fits, rfl⟩, rfl⟩
    exact ⟨fits, rfl⟩
  · rintro ⟨fits, rfl⟩
    exact ⟨_, ⟨fits, rfl⟩, rfl⟩

theorem exists_pieces {value : α} (fits : ∀ n ∈ counts format value, n < 0x100000000) :
    ∃ pieces, (puts format value).mapM Put.run = .ok pieces ∧
      pieces.flatten = format.bytes value :=
  (written_iff format).mpr ⟨fits, rfl⟩

end Format.Encodes

end TabletRecords.Wire
