import TabletRecords.Proofs.Wire.Cutting

/-!
Damage to the framing of a record: its end is cut off, or its version or its length is another one.
A reader of the header finds another version and a record that goes past the end of the buffer.
Another length that the header lets pass gives a body that is too short, or one with bytes after its
fields.
-/
namespace TabletRecords.Wire

open Arena (Account)
open Outcome

theorem Format.length_int32_bytes (value : Int32) : (int32.bytes value).length = 4 :=
  BigEndian.length_digits 4 _

namespace Reader

theorem int32_eq_ok (value : Int32) (rest : List UInt8) (position : Nat) :
    int32 ⟨Format.int32.bytes value ++ rest, position⟩ = .ok value ⟨rest, position + 4⟩ := by
  refine int32_exact.eq_ok_iff.mpr ⟨trivial, rfl, ?_⟩
  rw [BigEndian.length_digits]

theorem int32_eq_error {cursor : Cursor} (short : cursor.remaining < 4) :
    int32 cursor = .error (.tooSmall 4 cursor.remaining) cursor := by
  have taken : take 4 cursor = .error (.tooSmall 4 cursor.remaining) cursor := if_pos short
  show EStateM.map _ (EStateM.map _ (EStateM.map _ (take 4))) cursor = _
  simp only [EStateM.map, taken]

end Reader

namespace Header

theorem bytes_append (header : Header) (rest : List UInt8) :
    format.bytes header ++ rest =
      Format.int32.bytes header.version ++ (Format.int32.bytes header.length ++ rest) :=
  List.append_assoc ..

/-- What is wrong with a header, if anything is, where some bytes follow it. -/
def fault? (header : Header) (expected : Int32) (most following : Nat) : Option Error :=
  if header.version ≠ expected then some (.unexpectedVersion expected header.version)
  else if header.length < 0 then some (.corrupt (.negativeLength header.length))
  else if header.size < headerSize ∨ most < header.size then
    some (.corrupt (.lengthOutside header.size headerSize most))
  else if headerSize + following < header.size then
    some (.tooSmall header.size (headerSize + following))
  else none

theorem fault?_eq_none_iff {header : Header} {expected : Int32} {most following : Nat} :
    header.fault? expected most following = none ↔
      header.version = expected ∧ 0 ≤ header.length ∧ headerSize ≤ header.size ∧
        header.size ≤ most ∧ header.size ≤ headerSize + following := by
  have guard : ∀ (p : Prop) [Decidable p] (error : Error) (later : Option Error),
      (if p then some error else later) = none ↔ ¬p ∧ later = none := by
    intro p _ error later
    by_cases h : p <;> simp [h]
  simp only [fault?, guard, Decidable.not_not, Int32.not_lt, not_or, Nat.not_lt, and_true, and_assoc]

theorem fault?_eq_lengthOutside {header : Header} {expected : Int32} {most : Nat}
    (known : header.version = expected) (nonneg : 0 ≤ header.length)
    (outside : header.size < headerSize ∨ most < header.size) (following : Nat) :
    header.fault? expected most following =
      some (.corrupt (.lengthOutside header.size headerSize most)) := by
  rw [fault?, if_neg (Decidable.not_not.mpr known), if_neg (Int32.not_lt.mpr nonneg), if_pos outside]

theorem fault?_eq_tooSmall {header : Header} {expected : Int32} {most following : Nat}
    (known : header.version = expected) (nonneg : 0 ≤ header.length) (limit : header.size ≤ most)
    (cut : headerSize + following < header.size) :
    header.fault? expected most following =
      some (.tooSmall header.size (headerSize + following)) := by
  have within : ¬(header.size < headerSize ∨ most < header.size) := by omega
  rw [fault?, if_neg (Decidable.not_not.mpr known), if_neg (Int32.not_lt.mpr nonneg), if_neg within,
    if_pos cut]

variable (expected : Int32) (most position : Nat)

theorem read_eq (header : Header) (rest : List UInt8) :
    ∃ after, read expected most ⟨format.bytes header ++ rest, position⟩ =
      match header.fault? expected most rest.length with
      | some error => .error error after
      | none => .ok header ⟨rest, position + headerSize⟩ := by
  have remaining : Cursor.remaining ⟨format.bytes header ++ rest, position⟩ =
      headerSize + rest.length := by
    rw [Cursor.remaining, List.length_append, length_bytes]
  have first : Reader.int32 ⟨format.bytes header ++ rest, position⟩ =
      .ok header.version ⟨Format.int32.bytes header.length ++ rest, position + 4⟩ := by
    rw [bytes_append]
    exact Reader.int32_eq_ok ..
  have second := Reader.int32_eq_ok header.length rest (position + 4)
  simp only [read, Reader.corrupt, throw_bind, fault?]
  by_cases other : header.version ≠ expected
  · refine ⟨⟨Format.int32.bytes header.length ++ rest, position + 4⟩,
      (bind_eq_of_ok rfl).trans ((bind_eq_of_ok first).trans ?_)⟩
    simp only [if_pos other]
    rfl
  · refine ⟨⟨rest, position + headerSize⟩, (bind_eq_of_ok rfl).trans ((bind_eq_of_ok first).trans ?_)⟩
    simp only [if_neg other]
    refine (bind_eq_of_ok second).trans ?_
    simp only [remaining]
    show (if header.length < 0 then _ else if header.size < headerSize ∨ most < header.size then _
      else if headerSize + rest.length < header.size then _ else _ : Reader Header) _ = _
    by_cases negative : header.length < 0
    · simp only [if_pos negative]
      rfl
    by_cases outside : header.size < headerSize ∨ most < header.size
    · simp only [if_neg negative, if_pos outside]
      rfl
    by_cases short : headerSize + rest.length < header.size
    · simp only [if_neg negative, if_neg outside, if_pos short]
      rfl
    · simp only [if_neg negative, if_neg outside, if_neg short]
      rfl

theorem read_lacks {header : Header} {content : List UInt8} (known : header.version = expected)
    (front : content <+: format.bytes header) (short : content.length < headerSize) :
    ∃ needed remaining after,
      read expected most ⟨content, position⟩ = .error (.tooSmall needed remaining) after := by
  replace front : content <+:
      Format.int32.bytes header.version ++ Format.int32.bytes header.length := front
  simp only [read, Reader.corrupt, throw_bind]
  rcases Nat.lt_or_ge content.length 4 with none | half
  · exact ⟨4, content.length, ⟨content, position⟩,
      (bind_eq_of_ok rfl).trans (bind_eq_of_error (Reader.int32_eq_error none))⟩
  · obtain ⟨rest, rfl⟩ := List.prefix_of_prefix_length_le (List.prefix_append _ _) front
      (by rwa [Format.length_int32_bytes])
    rw [List.length_append, Format.length_int32_bytes] at short
    refine ⟨4, rest.length, ⟨rest, position + 4⟩,
      (bind_eq_of_ok rfl).trans ((bind_eq_of_ok (Reader.int32_eq_ok _ _ _)).trans ?_)⟩
    rw [if_neg (Decidable.not_not.mpr known)]
    exact bind_eq_of_error (Reader.int32_eq_error (Nat.lt_of_add_lt_add_left short))

end Header

namespace Record

variable {α : Type} {format : Format α} {legal : α → Prop} {version : Int32} {most position : Nat}
  {header : Header} {value : α} {buffer front : List UInt8}

theorem read_append {content : List UInt8} :
    read version most (front ++ content) front.length =
      match Header.read version most ⟨content, front.length⟩ with
      | .ok header after => .ok (header, after.rest.take (header.size - headerSize))
      | .error error _ => .error error := by
  have within : ¬(front ++ content).length < front.length := by simp
  simp only [read, Cursor.at?, if_neg within, List.drop_left]
  rfl

theorem read_append_header {rest : List UInt8} :
    read version most (front ++ (Header.format.bytes header ++ rest)) front.length =
      match header.fault? version most rest.length with
      | some error => .error error
      | none => .ok (header, rest.take (header.size - headerSize)) := by
  obtain ⟨after, taken⟩ := Header.read_eq version most front.length header rest
  rw [read_append, taken]
  cases header.fault? version most rest.length <;> rfl

theorem splice_append {old bytes rest : List UInt8} (same : old.length = bytes.length) :
    splice (front ++ (old ++ rest)) front.length bytes = front ++ (bytes ++ rest) := by
  rw [splice_eq, List.take_left, ← same, ← List.drop_drop, List.drop_left, List.drop_left]

theorem Stands.split (stands : Stands format version most header value buffer position) :
    ∃ front rest, front.length = position ∧
      buffer = front ++ (Header.format.bytes header ++ (format.bytes value ++ rest)) := by
  obtain ⟨rest, found⟩ := stands.found
  refine ⟨buffer.take position, rest, List.length_take_of_le stands.within, ?_⟩
  rw [← List.append_assoc (Header.format.bytes header), ← bytes, found, List.take_append_drop]

theorem Stands.fault?_eq (stands : Stands format version most header value buffer position)
    {following : Nat} (cut : headerSize + following < header.size) :
    header.fault? version most following =
      some (.tooSmall header.size (headerSize + following)) :=
  Header.fault?_eq_tooSmall stands.version stands.nonneg stands.limit cut

theorem Stands.read_truncated
    (stands : Stands format version most header value buffer position) {cut : Nat}
    (start : position ≤ cut) (short : cut < position + header.size) :
    ∃ needed remaining,
      read version most (buffer.take cut) position = .error (.tooSmall needed remaining) := by
  have size := stands.size
  obtain ⟨front, rest, rfl, rfl⟩ := stands.split
  obtain ⟨kept, rfl⟩ := Nat.exists_eq_add_of_le start
  rw [List.take_length_add_append]
  rcases Nat.lt_or_ge kept headerSize with half | whole
  · have inside : kept ≤ (Header.format.bytes header).length := by
      rw [Header.length_bytes]
      exact Nat.le_of_lt half
    obtain ⟨needed, remaining, after, lacks⟩ := Header.read_lacks version most front.length
      stands.version (List.take_prefix kept (Header.format.bytes header))
      (by rwa [List.length_take_of_le inside])
    rw [List.take_append_of_le_length inside, read_append, lacks]
    exact ⟨needed, remaining, rfl⟩
  · obtain ⟨following, rfl⟩ := Nat.exists_eq_add_of_le whole
    have fewer : (List.take following (format.bytes value ++ rest)).length ≤ following :=
      List.length_take_le _ _
    rw [← Header.length_bytes header, List.take_length_add_append, read_append_header,
      stands.fault?_eq (by omega)]
    exact ⟨_, _, rfl⟩

theorem Stands.read_of_version (stands : Stands format version most header value buffer position)
    {other : Int32} (different : other ≠ version) :
    read version most (splice buffer position (Format.int32.bytes other)) position =
      .error (.unexpectedVersion version other) := by
  obtain ⟨front, rest, rfl, rfl⟩ := stands.split
  have same : (Format.int32.bytes header.version).length = (Format.int32.bytes other).length := rfl
  rw [Header.bytes_append, splice_append same, ← Header.bytes_append ⟨other, header.length⟩,
    read_append_header, Header.fault?, if_pos different]

/-- Some bytes are others without their end, or with more after it. -/
def Resized (content own : List UInt8) : Prop :=
  (∃ lost ≠ [], own = content ++ lost) ∨ ∃ more ≠ [], content = own ++ more

theorem resized_take {own rest : List UInt8} {n : Nat} (different : n ≠ own.length)
    (within : n ≤ (own ++ rest).length) : Resized ((own ++ rest).take n) own := by
  rcases Nat.lt_or_gt_of_ne different with fewer | more
  · refine .inl ⟨own.drop n, ?_, ?_⟩
    · rwa [Ne, List.drop_eq_nil_iff, Nat.not_le]
    · rw [List.take_append_of_le_length (Nat.le_of_lt fewer), List.take_append_drop]
  · obtain ⟨k, rfl⟩ := Nat.exists_eq_add_of_lt more
    rw [List.length_append] at within
    rw [Nat.add_assoc] at within ⊢
    refine .inr ⟨rest.take (k + 1), ?_, List.take_length_add_append _⟩
    rw [Ne, List.take_eq_nil_iff]
    rintro (h | rfl)
    · cases h
    · rw [List.length_nil] at within
      omega

theorem Stands.read_of_length (lawful : format.Lawful legal)
    (stands : Stands format version most header value buffer position) {other : Int32}
    (different : other ≠ header.length) :
    (∃ error, read version most (splice buffer (position + 4) (Format.int32.bytes other)) position =
      .error error) ∨
    ∃ body, read version most (splice buffer (position + 4) (Format.int32.bytes other)) position =
        .ok (⟨version, other⟩, body) ∧ Resized body (format.bytes value) := by
  have size := stands.size
  have known := stands.version
  have nonneg := stands.nonneg
  obtain ⟨front, rest, rfl, rfl⟩ := stands.split
  have same : (Format.int32.bytes header.length).length = (Format.int32.bytes other).length := rfl
  have place : front.length + 4 = (front ++ Format.int32.bytes header.version).length := by
    rw [List.length_append, Format.length_int32_bytes]
  rw [Header.bytes_append, ← List.append_assoc front, place, splice_append same, List.append_assoc,
    ← Header.bytes_append ⟨header.version, other⟩, known, read_append_header]
  cases fault : (Header.mk version other).fault? version most (format.bytes value ++ rest).length with
  | some error => exact .inl ⟨error, rfl⟩
  | none =>
    obtain ⟨-, nonneg', least, -, within⟩ := Header.fault?_eq_none_iff.mp fault
    have resized : (Header.mk version other).size - headerSize ≠ (format.bytes value).length := by
      rw [lawful.length_bytes]
      intro equal
      -- Neither length is negative, so each is the one of its size.
      have sizes : (Header.mk version other).size = header.size := by omega
      refine different ((Header.length_eq_ofNat nonneg').trans ?_)
      rw [sizes, ← Header.length_eq_ofNat nonneg]
    exact .inr ⟨_, rfl, resized_take resized (by omega)⟩

theorem body_lacks [format.Decodes] (lawful : format.Lawful legal) (hlegal : legal value)
    {account account' : Account} (fits : account.chargeAll (format.charges value) = .ok account')
    {content lost : List UInt8} (own : format.bytes value = content ++ lost) (cut : lost ≠ []) :
    (body format).Lacks { cursor := .start content, account } := by
  have cuts : format.read.Cuts := by
    rw [← Format.Decodes.run_decoder]
    exact Decoder.run_cuts _
  have whole : format.read { cursor := .start (content ++ lost), account } =
      .ok value ⟨⟨[], (format.bytes value).length⟩, account', format.footprint value⟩ := by
    refine lawful.read_eq_ok_iff.mpr ⟨hlegal, ⟨?_, (Nat.zero_add _).symm⟩, fits, (Nat.zero_add _).symm⟩
    rw [own, List.append_nil]
    rfl
  -- The own bytes are read to their end, so the read comes to every cut.
  rcases cuts _ _ _ _ _ rfl whole with ⟨kept, rest, -⟩ | ⟨needed, remaining, after, lacks⟩
  · exact absurd (List.append_eq_nil_iff.mp rest.symm).2 cut
  · exact ⟨needed, remaining, after, bind_eq_of_error lacks⟩

theorem body_trailing (lawful : format.Lawful legal) (hlegal : legal value)
    {account account' : Account} (fits : account.chargeAll (format.charges value) = .ok account')
    {more : List UInt8} (trailing : more ≠ []) :
    ∃ after, body format { cursor := .start (format.bytes value ++ more), account } =
      .error (.wire (.corrupt (.trailingBytes more.length))) after := by
  let state : IntakeState := ⟨⟨more, (format.bytes value).length⟩, account', format.footprint value⟩
  have own : format.read { cursor := .start (format.bytes value ++ more), account } =
      .ok value state :=
    lawful.read_eq_ok_iff.mpr ⟨hlegal, ⟨rfl, (Nat.zero_add _).symm⟩, fits, (Nat.zero_add _).symm⟩
  have unfinished : Intake.ofReader Reader.finished state =
      .error (.wire (.corrupt (.trailingBytes more.length))) state := by
    cases more with
    | nil => exact absurd rfl trailing
    | cons byte bytes => rfl
  exact ⟨state, (bind_eq_of_ok own).trans (bind_eq_of_error unfinished)⟩

theorem body_of_resized [format.Decodes] (lawful : format.Lawful legal) (hlegal : legal value)
    {account account' : Account} (fits : account.chargeAll (format.charges value) = .ok account')
    {content : List UInt8} (resized : Resized content (format.bytes value)) :
    ∃ error after, body format { cursor := .start content, account } =
      .error (.wire error) after := by
  rcases resized with ⟨lost, cut, own⟩ | ⟨more, trailing, rfl⟩
  · obtain ⟨needed, remaining, after, lacks⟩ := body_lacks lawful hlegal fits own cut
    exact ⟨_, after, lacks⟩
  · obtain ⟨after, refused⟩ := body_trailing lawful hlegal fits trailing
    exact ⟨_, after, refused⟩

end Record

end TabletRecords.Wire
