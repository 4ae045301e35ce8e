import TabletRecords.Proofs.Parameter.Carrying
import TabletRecords.Proofs.Tablet.Reception
import TabletRecords.Proofs.Tablet.RoundTrip

/-!
Placeholders. A parameter for a tablet whose restore has not started is made from four names that
are valid, and from nothing else. It is received by tablets in every arena, for it has no list that
a tablet keeps, and it arrives as it was where it is shipped; its schema stays a placeholder
wherever it is carried, so that no query ever reads by it.
-/
namespace TabletRecords

open Arena (Account ArenaId Ledger)

/-- Every blank tablet, in whatever arena, receives a snapshot as a tablet whose restore has not
started. This tablet is valid, and is written wherever there is room for its record. -/
def Snapshot.ReceivedPending (snapshot : Snapshot) : Prop :=
  ∀ (arena : ArenaId) (ledger : Ledger), ∃ tablet after,
    Tablet.uninitialized.init arena (.receive snapshot) ledger = .ok tablet after ∧
      tablet.isValid ∧ tablet.descriptor.readiness.isPending ∧
      ∀ (buffer : List UInt8) (position : Nat), position + tablet.recordSize ≤ buffer.length →
        ∃ buffer', tablet.write {} buffer position = .ok (buffer', position + tablet.recordSize)

namespace TransferParameter

variable {name : TabletName} {dataTabletId : TabletId} {createScn : Scn} {made : TransferParameter}
  {before after : Ledger}

/-- A placeholder is valid just where the four names are: its start is the first checkpoint, which
nothing that is created has to precede. -/
theorem isValid_placeholderSnapshot_iff :
    (placeholderSnapshot name dataTabletId createScn).isValid ↔
      name.logStreamId.isValid ∧ name.tabletId.isValid ∧ dataTabletId.isValid ∧ createScn.isValid := by
  rw [Snapshot.isValid_iff]
  constructor
  · intro valid
    exact ⟨valid.logStreamId, valid.tabletId, valid.dataTabletId, valid.createScn⟩
  · rintro ⟨logStreamId, tabletId, dataTabletId, createScn⟩
    exact {
      logStreamId, tabletId, dataTabletId, createScn
      createdBeforeStart := rfl
      multiVersionStart := show (0 : Int64) ≤ 0 by decide
      order := show (0 : Int64) ≤ 0 by decide
      compatMode := rfl
      readiness := rfl
      schema := show StorageSchema.placeholder.isValid by decide
      compactions := rfl }

theorem restorePlaceholder_eq_ok_iff_isValid :
    restorePlaceholder name dataTabletId createScn before = .ok made after ↔
      (placeholderSnapshot name dataTabletId createScn).isValid ∧
        made = ⟨⟨before.next⟩, {}, placeholderSnapshot name dataTabletId createScn⟩ ∧
        after = (before.openArena { freshAccount {} with used := 32 }).2 := by
  have fits : (freshAccount {}).chargeAll
      (Snapshot.format.charges (placeholderSnapshot name dataTabletId createScn)) =
        .ok { freshAccount {} with used := 32 } := rfl
  rw [restorePlaceholder_eq_ok_iff, ofSnapshot_eq_ok_iff]
  constructor
  · rintro ⟨valid, account, charged, made, opened⟩
    cases charged.symm.trans fits
    exact ⟨valid, made, opened⟩
  · rintro ⟨valid, made, opened⟩
    exact ⟨valid, _, fits, made, opened⟩

theorem recordSize_placeholderSnapshot :
    (placeholderSnapshot name dataTabletId createScn).recordSize = 314 := by
  rw [Snapshot.recordSize, Snapshot.size_eq]
  rfl

theorem receivedPending_placeholderSnapshot
    (valid : (placeholderSnapshot name dataTabletId createScn).isValid) :
    (placeholderSnapshot name dataTabletId createScn).ReceivedPending := by
  intro arena ledger
  let request : InitRequest := .receive (placeholderSnapshot name dataTabletId createScn)
  have adoptable : (placeholderSnapshot name dataTabletId createScn).Adoptable :=
    ⟨valid, show (0 : Int64) ≤ 0 by decide, .inl rfl⟩
  have body_valid : request.body.isValid := (DescriptorBody.isValid_receive_iff.mpr adoptable).2
  have size : request.body.recordSize = 228 := by
    rw [DescriptorBody.recordSize, DescriptorBody.size_eq]
    rfl
  have sound : (Descriptor.framed Descriptor.currentVersion request.body).Sound :=
    .framed rfl (by rw [size]; decide) body_valid rfl
  -- A tablet keeps no list of a placeholder, so no room is asked of the arena.
  refine ⟨_, _, Tablet.init_eq_ok_iff.mpr ⟨⟨rfl, InitRequest.require_eq_ok_iff.mpr valid, body_valid,
    sound.recordSize_lt⟩, rfl, _, Account.chargeAll_nil_eq_ok_iff.mpr rfl, rfl⟩, body_valid, rfl, ?_⟩
  intro buffer position room
  exact ⟨_, (Tablet.write_initialized_eq_ok_iff sound).mpr
    ⟨⟨by show request.body.recordSize ≤ _; rw [size]; decide, room⟩, rfl, rfl⟩⟩

/-- A parameter that can be used for a tablet whose restore has not started. -/
structure UsablePlaceholder (parameter : TransferParameter) : Prop where
  isValid : parameter.snapshot.isValid
  isPlaceholder : parameter.snapshot.isPlaceholder
  isPending : parameter.snapshot.readiness.isPending
  incomplete : parameter.snapshot.readiness.isComplete = false
  withoutMajor : parameter.snapshot.storeFlag.withMajor = false
  received : parameter.snapshot.ReceivedPending
  /-- Its record arrives at a new parameter as the same parameter, which is of the same use. -/
  shipped : ∀ (buffer : List UInt8) (position : Nat),
    position + parameter.snapshot.recordSize ≤ buffer.length →
    ∃ buffer', parameter.write buffer position =
        .ok (buffer', position + parameter.snapshot.recordSize) ∧
      ∀ ledger, ∃ fresh opened copy after, blank {} ledger = .ok fresh opened ∧
        fresh.read buffer' position opened =
          .ok (copy, position + parameter.snapshot.recordSize) after ∧
        copy.same parameter ∧ copy.snapshot.ReceivedPending

theorem usablePlaceholder
    (valid : (placeholderSnapshot name dataTabletId createScn).isValid) (arena : ArenaId) :
    UsablePlaceholder ⟨arena, {}, placeholderSnapshot name dataTabletId createScn⟩ where
  isValid := valid
  isPlaceholder := rfl
  isPending := rfl
  incomplete := rfl
  withoutMajor := rfl
  received := receivedPending_placeholderSnapshot valid
  shipped := by
    intro buffer position room
    let parameter : TransferParameter :=
      ⟨arena, {}, placeholderSnapshot name dataTabletId createScn⟩
    have size : parameter.snapshot.recordSize = 314 := recordSize_placeholderSnapshot
    have written : ∃ buffer', parameter.write buffer position =
        .ok (buffer', position + parameter.snapshot.recordSize) := by
      refine ⟨_, write_eq_ok_iff.mpr ⟨valid, _, Wire.Record.write_eq_ok_iff.mpr
        ⟨⟨?_, ?_, room⟩, rfl, rfl, rfl⟩⟩⟩
      · show parameter.snapshot.recordSize < _
        rw [size]
        decide
      · show parameter.snapshot.recordSize ≤ ({} : Settings).recordLimit
        rw [size]
        decide
    obtain ⟨buffer', written⟩ := written
    refine ⟨buffer', written, fun ledger => ?_⟩
    obtain ⟨fresh, opened, copy, after, blank, read, same⟩ :=
      read_blank_of_chargeAll rfl written rfl ledger
    refine ⟨fresh, opened, copy, after, blank, read, decide_eq_true same, ?_⟩
    rw [same]
    exact receivedPending_placeholderSnapshot valid

theorem checkQueryable_eq_error_iff {schema : StorageSchema} :
    (∃ fault, schema.checkQueryable = .error fault) ↔ schema.isPlaceholder := by
  cases mark : schema.isPlaceholder <;> simp [StorageSchema.checkQueryable, mark]

/-- Placeholders are usable, and they stay placeholders. One is made just where its four names are
valid; it is then valid, is received by a blank tablet in every arena, and arrives where it is
shipped. A schema that is set in a parameter, or sent along with a tablet, is the one that was
given, and after any hops it is the one that set out: a placeholder still is one, and is refused by
queries as before. -/
theorem placeholder_usable_and_marked :
    (∀ (name : TabletName) (dataTabletId : TabletId) (createScn : Scn) (before : Ledger),
      ((∃ made after, restorePlaceholder name dataTabletId createScn before = .ok made after) ↔
        name.logStreamId.isValid ∧ name.tabletId.isValid ∧ dataTabletId.isValid ∧
          createScn.isValid) ∧
      ∀ made after, restorePlaceholder name dataTabletId createScn before = .ok made after →
        made.UsablePlaceholder) ∧
    (∀ (target result : TransferParameter) (schema : StorageSchema) (before after : Ledger),
      target.setSchema schema before = .ok result after → result.snapshot.schema = schema) ∧
    (∀ (tablet : Tablet) (schema : StorageSchema) (compactions : CompactionQueue)
      (result : TransferParameter) (before after : Ledger),
      ofTablet tablet schema compactions before = .ok result after →
        result.snapshot.schema = schema) ∧
    ∀ (carrier : TransferParameter) (hops : List Hop),
      let last := hops.foldl Hop.carry carrier
      last.snapshot.schema = carrier.snapshot.schema ∧
        last.snapshot.isPlaceholder = carrier.snapshot.isPlaceholder ∧
        last.snapshot.schema.checkQueryable = carrier.snapshot.schema.checkQueryable ∧
        ((∃ fault, last.snapshot.schema.checkQueryable = .error fault) ↔
          carrier.snapshot.isPlaceholder) := by
  refine ⟨?_, fun target result schema before after => setSchema_eq_ok,
    fun tablet schema compactions result before after => ofTablet_eq_ok, ?_⟩
  · intro name dataTabletId createScn before
    constructor
    · rw [← isValid_placeholderSnapshot_iff]
      simp only [restorePlaceholder_eq_ok_iff_isValid]
      constructor
      · rintro ⟨made, after, valid, -⟩
        exact valid
      · intro valid
        exact ⟨_, _, valid, rfl, rfl⟩
    · intro made after done
      obtain ⟨valid, rfl, -⟩ := restorePlaceholder_eq_ok_iff_isValid.mp done
      exact usablePlaceholder valid _
  · intro carrier hops last
    have schema : last.snapshot.schema = carrier.snapshot.schema := schema_foldl_carry carrier hops
    refine ⟨schema, congrArg StorageSchema.isPlaceholder schema,
      congrArg StorageSchema.checkQueryable schema, ?_⟩
    rw [schema]
    exact checkQueryable_eq_error_iff

/-- A tablet of time 9, far past its start, has a placeholder; a copy of it is another parameter,
which queries refuse as well. -/
theorem placeholder_usable_and_marked_copy :
    ∃ made after, restorePlaceholder ⟨⟨1001⟩, ⟨300⟩⟩ ⟨300⟩ ⟨9⟩ .empty = .ok made after ∧
      made.UsablePlaceholder ∧
      (∃ result ended, setSchema ⟨⟨7⟩, {}, {}⟩ .placeholder .empty = .ok result ended ∧
        result.snapshot.schema = .placeholder) ∧
      (∃ result ended, ofTablet Tablet.successor .placeholder {} .empty = .ok result ended ∧
        result.snapshot.schema = .placeholder) ∧
      ∃ copy, [Hop.mk .empty (.assign ⟨⟨7⟩, {}, {}⟩)].foldl Hop.carry made = copy ∧
        copy.arena = ⟨7⟩ ∧ copy.snapshot.isPlaceholder ∧
        ∃ fault, copy.snapshot.schema.checkQueryable = .error fault := by
  obtain ⟨placeholders, sets, sends, hops⟩ := placeholder_usable_and_marked
  obtain ⟨made_iff, usable⟩ := placeholders ⟨⟨1001⟩, ⟨300⟩⟩ ⟨300⟩ ⟨9⟩ .empty
  obtain ⟨made, after, done⟩ := made_iff.mpr (by decide)
  obtain ⟨-, rfl, -⟩ := restorePlaceholder_eq_ok_iff_isValid.mp done
  obtain ⟨result, ended, set⟩ :
      ∃ result ended, setSchema ⟨⟨7⟩, {}, {}⟩ .placeholder .empty = .ok result ended := ⟨_, _, rfl⟩
  obtain ⟨result', ended', sent⟩ :
      ∃ result ended, ofTablet Tablet.successor .placeholder {} .empty = .ok result ended :=
    ⟨_, _, rfl⟩
  obtain ⟨-, mark, -, refused⟩ := hops _ [Hop.mk .empty (.assign ⟨⟨7⟩, {}, {}⟩)]
  exact ⟨_, after, done, usable _ _ done, ⟨result, ended, set, sets _ _ _ _ _ set⟩,
    ⟨result', ended', sent, sends _ _ _ _ _ _ sent⟩, _, rfl, rfl, mark, refused.mpr rfl⟩

end TransferParameter

end TabletRecords
