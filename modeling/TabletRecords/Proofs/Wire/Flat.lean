import TabletRecords.Proofs.Wire.Decoder
import TabletRecords.Proofs.Wire.Parts
import TabletRecords.Wire.Record

/-!
Flat formats. A value without lists asks for no memory, so its format is read by a reader alone,
without an account. All formats but those of counted lists are flat where their parts are.
-/
namespace TabletRecords

namespace Wire

open Outcome

/-- A format together with the reader of its values, which own no lists. -/
class Format.Flat {α : Type} (format : Format α) where
  reader : Reader α
  read_eq : format.read = Intake.ofReader reader
  charges_eq : ∀ value, format.charges value = []

namespace Format.Flat

open Intake

variable {α β : Type}

@[reducible] def plain (bytes : α → List UInt8) (size : α → Nat) (read : Reader α) :
    (Format.plain bytes size read).Flat where
  reader := read
  read_eq := rfl
  charges_eq _ := rfl

instance uint32 : uint32.Flat := plain _ _ _

instance uint64 : uint64.Flat := plain _ _ _

instance int32 : int32.Flat := plain _ _ _

instance int64 : int64.Flat := plain _ _ _

instance bool : bool.Flat := plain _ _ _

instance tagged [DecidableEq α] [Tagged α] : (tagged α).Flat := plain _ _ _

variable (format : Format α) [format.Flat]

instance pair (second : Format β) [second.Flat] : (format.pair second).Flat where
  reader := return (← reader format, ← reader second)
  read_eq := by
    simp only [ofReader_bind, Format.pair, read_eq]
    rfl
  charges_eq value := by
    show format.charges value.1 ++ second.charges value.2 = []
    rw [charges_eq, charges_eq, List.append_nil]

instance refine (accept : α → Except Error β) (stored : β → α) :
    (format.refine accept stored).Flat where
  reader := do
    match accept (← reader format) with
    | .ok value => return value
    | .error error => throw error
  read_eq := by
    show (format.read >>= fun raw => _) = _
    rw [read_eq, ofReader_bind]
    congr 1
    funext raw
    cases accept raw <;> rfl
  charges_eq value := charges_eq (stored value)

instance map (pack : α → β) (unpack : β → α) : (format.map pack unpack).Flat :=
  refine format _ unpack

instance optional : format.optional.Flat where
  reader := do
    if ← Reader.bool then return some (← reader format) else return none
  read_eq := by
    show (ofReader Reader.bool >>= fun present => _) = _
    rw [ofReader_bind]
    congr 1
    funext present
    cases present with
    | false => rfl
    | true =>
      show (format.read >>= fun value => pure (some value)) =
        ofReader (reader format >>= fun value => pure (some value))
      rw [read_eq, ofReader_bind]
      rfl
  charges_eq
    | none => rfl
    | some value => charges_eq value

variable {format} {legal : α → Prop}

theorem exact (lawful : format.Lawful legal) : (reader format).Exact format.bytes legal := by
  constructor
  intro before value after
  -- The account is of no consequence, so one without a limit will do.
  let free : Arena.Account := ⟨"", Arena.unlimited, 0, false⟩
  have taken : format.read ⟨before, free, 0⟩ = .ok value ⟨after, free, 0⟩ ↔ _ :=
    lawful.read_eq_ok_iff
  rw [read_eq, ofReader_eq_ok_iff, charges_eq] at taken
  constructor
  · intro read
    obtain ⟨hlegal, takes⟩ := taken.mp ⟨after, read, rfl⟩
    exact ⟨hlegal, takes.cursor⟩
  · rintro ⟨hlegal, passes⟩
    obtain ⟨cursor, read, same⟩ := taken.mpr ⟨hlegal, passes, rfl, rfl⟩
    cases same
    exact read

end Format.Flat

end Wire

open Wire.Format (Flat)

instance : LogStreamId.format.Flat := Flat.map _ _ _

instance : TabletId.format.Flat := Flat.map _ _ _

instance : Scn.format.Flat := Flat.map _ _ _

instance : Readiness.format.Flat := Flat.refine _ _ _

instance : StoreFlag.format.Flat := Flat.refine _ _ _

instance : ReportStatus.format.Flat := Flat.map _ _ _

instance : TransactionState.format.Flat := Flat.map _ _ _

instance : RowkeyColumn.format.Flat := Flat.map _ _ _

instance : Column.format.Flat := Flat.map _ _ _

instance : Compaction.format.Flat := Flat.map _ _ _

instance : Autoincrement.Interval.format.Flat := Flat.map _ _ _

end TabletRecords
