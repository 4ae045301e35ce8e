import TabletRecords.Proofs.Parameter.RoundTrip

/-!
Schemas on their way. A schema gets from parameter to parameter by being assigned, set, sent along
with a tablet, or shipped as a record. However often that happens, and whether or not each step
succeeds, the schema that has been carried along is the one that set out.
-/
namespace TabletRecords

open Arena (Ledger)
open Outcome
open Wire (Format)

theorem Wire.Format.Lawful.append_cancel {α : Type} {format : Format α} {legal : α → Prop}
    (lawful : format.Lawful legal) {first second : α} {rest rest' : List UInt8}
    (hlegal : legal first) (hlegal' : legal second)
    (same : format.bytes first ++ rest = format.bytes second ++ rest') :
    first = second ∧ rest = rest' := by
  have values := lawful.eq_of_bytes_append hlegal hlegal' same
  rw [values] at same
  exact ⟨values, List.append_cancel_left same⟩

namespace Snapshot

def fields (snapshot : Snapshot) :=
  (snapshot.logStreamId, snapshot.tabletId, snapshot.dataTabletId, snapshot.refTabletId,
    snapshot.createScn, snapshot.startScn, snapshot.clogCheckpoint, snapshot.ddlCheckpoint?,
    snapshot.ddlStartLog?, snapshot.ddlSnapshotVersion?, snapshot.snapshotVersion,
    snapshot.multiVersionStart, snapshot.compatMode, snapshot.autoincrement,
    snapshot.readiness, snapshot.reportStatus, snapshot.transaction, snapshot.binding,
    snapshot.schema, snapshot.compactions, snapshot.storeFlag, snapshot.syncedSchemaVersion)

/-- The bytes of a snapshot, read with any intervals for its sequence. -/
def fieldsFormat :=
  LogStreamId.format.pair <| TabletId.format.pair <| TabletId.format.pair <|
    TabletId.format.pair <| Scn.format.pair <| Scn.format.pair <| Scn.format.pair <|
    Scn.format.optional.pair <| Scn.format.optional.pair <| Format.int64.optional.pair <|
    Format.int64.pair <| Format.int64.pair <| (Format.tagged CompatMode).pair <|
    ((Autoincrement.Interval.format.counted 16 16).map Autoincrement.Sequence.mk
      (·.intervals)).pair <|
    Readiness.format.pair <| ReportStatus.format.pair <| TransactionState.format.pair <|
    Binding.format.pair <| StorageSchema.format.pair <| CompactionQueue.format.pair <|
    StoreFlag.format.pair Format.int64

theorem fields_bytes (snapshot : Snapshot) :
    fieldsFormat.bytes snapshot.fields = format.bytes snapshot := rfl

theorem eq_of_fields {first second : Snapshot} (same : first.fields = second.fields) :
    first = second := by
  cases first
  cases second
  simp_all [fields]

theorem eq_of_bytes_append {first second : Snapshot} {rest rest' : List UInt8}
    (countable : first.Countable) (countable' : second.Countable)
    (same : format.bytes first ++ rest = format.bytes second ++ rest') : first = second := by
  have sequence := (Autoincrement.Interval.format_lawful.counted 16 16 (fun _ => rfl)
    (fun _ _ => Nat.le_refl 16)).map Autoincrement.Sequence.mk (·.intervals) (fun _ => rfl)
      (fun _ => rfl)
  have lawful := LogStreamId.format_lawful.pair <| TabletId.format_lawful.pair <|
    TabletId.format_lawful.pair <| TabletId.format_lawful.pair <| Scn.format_lawful.pair <|
    Scn.format_lawful.pair <| Scn.format_lawful.pair <| Scn.format_lawful.optional.pair <|
    Scn.format_lawful.optional.pair <| Format.int64_lawful.optional.pair <|
    Format.int64_lawful.pair <| Format.int64_lawful.pair <|
    (Format.tagged_lawful (α := CompatMode)).pair <| sequence.pair <| Readiness.format_lawful.pair <|
    ReportStatus.format_lawful.pair <| TransactionState.format_lawful.pair <|
    Binding.format_lawful.pair <| StorageSchema.format_lawful.pair <|
    CompactionQueue.format_lawful.pair <| StoreFlag.format_lawful.pair Format.int64_lawful
  rw [← fields_bytes, ← fields_bytes] at same
  refine eq_of_fields (lawful.eq_of_bytes_append ?_ ?_ same)
  · obtain ⟨intervals, binding, schema, compactions⟩ := countable
    simp [fields, intervals, binding, schema, compactions]
  · obtain ⟨intervals, binding, schema, compactions⟩ := countable'
    simp [fields, intervals, binding, schema, compactions]

end Snapshot

namespace TransferParameter

variable {carrier target result : TransferParameter} {before after : Ledger}

theorem snapshot_of_read_of_write {buffer buffer' : List UInt8} {position position' stop : Nat}
    (written : carrier.write buffer position = .ok (buffer', position'))
    (taken : target.read buffer' position before = .ok (result, stop) after) :
    result.snapshot = carrier.snapshot := by
  obtain ⟨valid, header, written⟩ := write_eq_ok_iff.mp written
  have small := (Wire.Record.write_eq_ok_iff.mp written).1.1
  obtain ⟨stands, -⟩ := Wire.Record.stands_of_write written
  obtain ⟨header', snapshot, account, stands', ⟨legal, -⟩, rfl, -⟩ := read_eq_ok_iff.mp taken
  obtain ⟨rest, found⟩ := stands.found
  obtain ⟨rest', found'⟩ := stands'.found
  -- Two records stand at one position: their headers are the same, and so are their bodies.
  have bytes := found'.trans found.symm
  rw [Wire.Record.bytes, Wire.Record.bytes, List.append_assoc, List.append_assoc] at bytes
  obtain ⟨-, bodies⟩ := Wire.Header.format_lawful.append_cancel trivial trivial bytes
  exact Snapshot.eq_of_bytes_append legal.countable (Snapshot.countable_of_isValid valid small) bodies

/-- The ways by which a parameter takes over the schema of another one. -/
inductive Way where
  | assign (target : TransferParameter)
  | setSchema (target : TransferParameter)
  | send (tablet : Tablet) (compactions : CompactionQueue)
  /-- Written into a buffer, and read from there by a receiver. -/
  | ship (receiver : TransferParameter) (buffer : List UInt8) (position : Nat)

def Way.run (carrier : TransferParameter) : Way → Charging TransferParameter
  | assign target => target.assign carrier
  | setSchema target => target.setSchema carrier.snapshot.schema
  | send tablet compactions => ofTablet tablet carrier.snapshot.schema compactions
  | ship receiver buffer position => do
      let (buffer, _) ← MonadExcept.ofExcept (carrier.write buffer position)
      let (received, _) ← receiver.read buffer position
      return received

/-- A way that is tried at a node, which has a ledger of its own. -/
structure Hop where
  ledger : Ledger
  way : Way

def Hop.carry (carrier : TransferParameter) (hop : Hop) : TransferParameter :=
  match hop.way.run carrier hop.ledger with
  | .ok next _ => next
  | .error _ _ => carrier

theorem setSchema_eq_ok {schema : StorageSchema}
    (done : target.setSchema schema before = .ok result after) : result.snapshot.schema = schema := by
  obtain ⟨rfl, -⟩ := setPart_eq_ok_iff.mp done
  rfl

theorem ofTablet_eq_ok {tablet : Tablet} {schema : StorageSchema} {compactions : CompactionQueue}
    (made : ofTablet tablet schema compactions before = .ok result after) :
    result.snapshot.schema = schema := by
  obtain ⟨descriptor, arena, -, -, made⟩ := ofTablet_eq_ok_iff.mp made
  obtain ⟨account, -, rfl, -⟩ := ofSnapshot_eq_ok_iff.mp made
  rfl

theorem Way.schema_of_run {way : Way} (done : way.run carrier before = .ok result after) :
    result.snapshot.schema = carrier.snapshot.schema := by
  cases way with
  | assign target =>
    obtain ⟨-, done⟩ := assign_eq_ok_iff.mp done
    obtain ⟨rfl, -⟩ := setPart_eq_ok_iff.mp done
    rfl
  | setSchema target => exact setSchema_eq_ok done
  | send tablet compactions => exact ofTablet_eq_ok done
  | ship receiver buffer position =>
    obtain ⟨⟨buffer', position'⟩, middle, written, done⟩ := bind_eq_ok_iff.mp done
    obtain ⟨⟨received, stop⟩, last, taken, done⟩ := bind_eq_ok_iff.mp done
    cases done
    obtain ⟨written, -⟩ := Charging.ofExcept_eq_ok_iff.mp written
    rw [snapshot_of_read_of_write written taken]

theorem Hop.schema_carry (carrier : TransferParameter) (hop : Hop) :
    (hop.carry carrier).snapshot.schema = carrier.snapshot.schema := by
  unfold carry
  split
  · next done => exact Way.schema_of_run done
  · rfl

theorem schema_foldl_carry (carrier : TransferParameter) (hops : List Hop) :
    (hops.foldl Hop.carry carrier).snapshot.schema = carrier.snapshot.schema := by
  induction hops generalizing carrier with
  | nil => rfl
  | cons hop hops ih => rw [List.foldl_cons, ih, hop.schema_carry]

end TransferParameter

end TabletRecords
