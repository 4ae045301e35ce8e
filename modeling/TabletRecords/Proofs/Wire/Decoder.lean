import TabletRecords.Proofs.Outcome
import TabletRecords.Wire.Tagged

/-!
Decoders. A decoder is a read as data: request after request for bytes, for the count of a list or
for memory, each followed by what is done with the answer. What all reads have in common, whatever
they read, is proved by induction over decoders.
-/
namespace TabletRecords.Wire

open Outcome

inductive Decoder (α : Type) where
  | done (value : α)
  | refuse (error : Error)
  | array (width : Nat) (next : List UInt8 → Decoder α)
  /-- Take the count of a list, and make a place for as many elements. An element takes at least
  `least` bytes in the buffer and exactly `memory` bytes in memory. -/
  | count (least memory : Nat) (small : memory < 0x80000000) (next : Nat → Decoder α)
  | charge (size : Nat) (next : Decoder α)

namespace Decoder

variable {α β : Type}

def run : Decoder α → Intake α
  | done value => return value
  | refuse error => Intake.refuse error
  | array width next => do (next (← Intake.ofReader (Reader.take width))).run
  | count least _ _ next => do (next (← Intake.ofReader (Reader.count least))).run
  | charge size next => do
      Intake.charge size
      next.run

def bind (decoder : Decoder α) (next : α → Decoder β) : Decoder β :=
  match decoder with
  | done value => next value
  | refuse error => refuse error
  | array width rest => array width fun bytes => (rest bytes).bind next
  | count least memory small rest => count least memory small fun n => (rest n).bind next
  | charge size rest => charge size (rest.bind next)

instance : Monad Decoder where
  pure := done
  bind := bind

theorem run_pure (value : α) : run (pure value) = pure value := rfl

theorem run_bind (decoder : Decoder α) (next : α → Decoder β) :
    run (decoder >>= next) = run decoder >>= fun value => (next value).run := by
  show (decoder.bind next).run = _
  induction decoder with
  | done value => rw [bind, run, pure_bind]
  | refuse error => rfl
  | array width rest ih => simp only [bind, run, ih, bind_assoc]
  | count least memory small rest ih => simp only [bind, run, ih, bind_assoc]
  | charge size rest ih => simp only [bind, run, ih, bind_assoc]

theorem run_map (f : α → β) (decoder : Decoder α) : run (f <$> decoder) = f <$> decoder.run :=
  (run_bind decoder fun value => pure (f value)).trans (bind_pure_comp f decoder.run)

def number (width : Nat) : Decoder Nat := BigEndian.value <$> array width done

def byte : Decoder UInt8 := UInt8.ofNat <$> number 1

def replicate (decoder : Decoder α) : Nat → Decoder (List α)
  | 0 => return []
  | n + 1 => return (← decoder) :: (← replicate decoder n)

theorem run_replicate (decoder : Decoder α) (n : Nat) :
    (decoder.replicate n).run = Intake.replicate decoder.run n := by
  induction n with
  | zero => rfl
  | succ n ih => simp only [replicate, Intake.replicate, run_bind, run_pure, ih]

def chargeAll : List Nat → Decoder PUnit
  | [] => return
  | size :: sizes => charge size (chargeAll sizes)

theorem run_chargeAll (sizes : List Nat) : (chargeAll sizes).run = sizes.forM Intake.charge := by
  induction sizes with
  | nil => rfl
  | cons size sizes ih =>
    rw [chargeAll, run, ih]
    rfl

end Decoder

namespace Intake

variable {α β : Type}

theorem ofReader_map (f : α → β) (read : Reader α) :
    ofReader (f <$> read) = f <$> ofReader read := by
  funext state
  show ofReader (EStateM.map f read) state = EStateM.map f (ofReader read) state
  unfold ofReader EStateM.map
  dsimp only
  cases read state.cursor <;> rfl

theorem ofReader_bind (read : Reader α) (next : α → Reader β) :
    ofReader (read >>= next) = ofReader read >>= fun value => ofReader (next value) := by
  funext state
  show ofReader (EStateM.bind read next) state = EStateM.bind (ofReader read) _ state
  unfold ofReader EStateM.bind
  dsimp only
  cases read state.cursor <;> rfl

end Intake

/-- A format together with the decoder of its values. -/
class Format.Decodes {α : Type} (format : Format α) where
  decoder : Decoder α
  run_decoder : decoder.run = format.read

namespace Format.Decodes

open Intake

variable {α β : Type}

theorem run_number (width : Nat) : (Decoder.number width).run = ofReader (Reader.number width) := by
  rw [Decoder.number, Reader.number, Decoder.run_map, ofReader_map]
  exact congrArg _ (bind_pure _)

theorem run_byte : Decoder.byte.run = ofReader Reader.byte := by
  rw [Decoder.byte, Reader.byte, Decoder.run_map, ofReader_map, run_number]

instance uint64 : uint64.Decodes where
  decoder := UInt64.ofNat <$> Decoder.number 8
  run_decoder := by
    rw [Decoder.run_map, run_number, ← ofReader_map]
    rfl

instance int32 : int32.Decodes where
  decoder := UInt32.toInt32 <$> UInt32.ofNat <$> Decoder.number 4
  run_decoder := by
    rw [Decoder.run_map, Decoder.run_map, run_number, ← ofReader_map, ← ofReader_map]
    rfl

instance int64 : int64.Decodes where
  decoder := UInt64.toInt64 <$> UInt64.ofNat <$> Decoder.number 8
  run_decoder := by
    rw [Decoder.run_map, Decoder.run_map, run_number, ← ofReader_map, ← ofReader_map]
    rfl

instance bool : bool.Decodes where
  decoder := do
    let byte ← Decoder.byte
    if byte = 0 then return false
    else if byte = 1 then return true
    else .refuse (.corrupt (.invalidBool byte))
  run_decoder := by
    show _ = ofReader Reader.bool
    rw [Reader.bool, ofReader_bind, Decoder.run_bind, run_byte]
    congr 1
    funext byte
    by_cases zero : byte = 0
    · rw [zero]
      rfl
    by_cases one : byte = 1
    · rw [one]
      rfl
    rw [if_neg zero, if_neg one]
    split
    · exact absurd rfl zero
    · exact absurd rfl one
    · rfl

instance tagged [DecidableEq α] [Tagged α] : (tagged α).Decodes where
  decoder := do
    let tag ← Decoder.byte
    match Tagged.ofTag? (α := α) tag with
    | some value => return value
    | none => .refuse (.corrupt (.unknownTag (Tagged.family α) tag))
  run_decoder := by
    show _ = ofReader (Reader.tagged _ _)
    rw [Reader.tagged, ofReader_bind, Decoder.run_bind, run_byte]
    congr 1
    funext tag
    cases Tagged.ofTag? (α := α) tag <;> rfl

variable (format : Format α) [format.Decodes]

instance pair (second : Format β) [second.Decodes] : (format.pair second).Decodes where
  decoder := return (← decoder format, ← decoder second)
  run_decoder := by
    simp only [Decoder.run_bind, Decoder.run_pure, run_decoder, Format.pair]

instance refine (accept : α → Except Error β) (stored : β → α) :
    (format.refine accept stored).Decodes where
  decoder := do
    match accept (← decoder format) with
    | .ok value => return value
    | .error error => .refuse error
  run_decoder := by
    rw [Decoder.run_bind, run_decoder, Format.refine]
    congr 1
    funext stored
    cases accept stored <;> rfl

instance map (pack : α → β) (unpack : β → α) : (format.map pack unpack).Decodes :=
  refine format _ unpack

instance optional : format.optional.Decodes where
  decoder := do
    if ← decoder Format.bool then return some (← decoder format) else return none
  run_decoder := by
    rw [Decoder.run_bind, run_decoder, Format.optional]
    congr 1
    funext present
    cases present with
    | false => rfl
    | true =>
      show (Decoder.run (decoder format >>= fun value => pure (some value))) = _
      rw [Decoder.run_bind, run_decoder]
      rfl

/-- The elements are charged once all of them are read. -/
@[reducible] def counted (least memory : Nat) (small : memory < 0x80000000) :
    (format.counted least memory).Decodes where
  decoder := .count least memory small fun n => do
    let items ← (decoder format).replicate n
    Decoder.chargeAll (Arena.listCharges n memory)
    return items
  run_decoder := by
    simp only [Decoder.run, Decoder.run_bind, Decoder.run_replicate, Decoder.run_chargeAll,
      Decoder.run_pure, run_decoder, Format.counted]

end Format.Decodes

end TabletRecords.Wire
