import TabletRecords.Proofs.Wire.HeaderSize

/-!
Writing in place. Here a record is put into its buffer piece by piece, and the position is moved at
the end; whatever would stop a program without an answer is a trap, as in guarded reads. However the
bytes of a body are cut into pieces, no trap is sprung, and a page ends up with the whole record or
as it was.
-/
namespace TabletRecords.Wire

open Outcome

structure Page where
  buffer : List UInt8
  position : Nat
deriving DecidableEq

namespace Page

/-- Put some bytes in front of what is left of a slot that stops at a place of the buffer. -/
def put (stop : Nat) (page : Page) (bytes : List UInt8) : Checked Page :=
  if page.position + bytes.length ≤ stop then
    .ok ⟨Record.splice page.buffer page.position bytes, page.position + bytes.length⟩
  else .error .outOfRange

def fill (page : Page) (size : Nat) (pieces : List (List UInt8)) : Checked Page := do
  let stop ← Checked.add page.position size
  let _ ← Checked.slice page.buffer page.position stop
  let filled ← pieces.foldlM (put stop) page
  Checked.expect (if filled.position = stop then some filled else none)

/-- Write a record whose body is said to have a size and is put down in pieces. The answer comes
with the page as it is then. -/
def write (page : Page) (version : Int32) (bodySize : Nat) (pieces : List (List UInt8)) (most : Nat) :
    Checked (Except Error Header × Page) := do
  let whole ← Checked.add headerSize bodySize
  match Header.ofSize version whole with
  | .error error => return (.error error, page)
  | .ok header =>
    let size ← Guarded.length header
    let remaining := page.buffer.length - page.position
    if most < size then return (.error (.corrupt (.lengthExceeds size most)), page)
    else if remaining < size then return (.error (.tooSmall size remaining), page)
    else
      let head := [Format.int32.bytes header.version, Format.int32.bytes header.length]
      return (.ok header, ← page.fill size (head ++ pieces))

end Page

namespace Header

theorem forBody_ofNat {bodySize : Nat} (few : bodySize < 0x8000000000000000) (version : Int32) :
    forBody version (UInt64.ofNat bodySize) = ofSize version (headerSize + bodySize) := by
  have bound : headerSize + 0x8000000000000000 < UInt64.size := by decide
  have word : (UInt64.ofNat bodySize).toNat = bodySize := UInt64.toNat_ofNat_of_lt' (by omega)
  rw [forBody_of_fits (by omega), word]

theorem bytes_ofNat {size : Nat} (small : size < 0x80000000) (version : Int32) :
    format.bytes ⟨version, Int32.ofNat size⟩ =
      BigEndian.digits 4 version.toUInt32.toNat ++ BigEndian.digits 4 size := by
  have word : (Int32.ofNat size).toUInt32.toNat = size := by
    show (UInt32.ofNat size).toNat = size
    exact UInt32.toNat_ofNat_of_lt' (by
      have bound : 0x80000000 < UInt32.size := by decide
      omega)
  show BigEndian.digits 4 _ ++ BigEndian.digits 4 (Int32.ofNat size).toUInt32.toNat = _
  rw [word]

end Header

namespace Record

theorem splice_splice {buffer first second : List UInt8} {position : Nat}
    (within : position ≤ buffer.length) :
    splice (splice buffer position first) (position + first.length) second =
      splice buffer position (first ++ second) := by
  have front : (buffer.take position ++ first).length = position + first.length := by
    rw [List.length_append, List.length_take_of_le within]
  unfold splice
  rw [← front, List.take_left, List.drop_append, List.drop_of_length_le (Nat.le_add_right _ _),
    List.nil_append, Nat.add_sub_cancel_left, List.drop_drop, front, List.length_append, Nat.add_assoc,
    List.append_assoc (List.take position buffer)]

end Record

namespace Page

theorem puts_eq {stop : Nat} {pieces : List (List UInt8)} {page : Page}
    (fits : page.position + pieces.flatten.length ≤ stop) (within : stop ≤ page.buffer.length) :
    pieces.foldlM (put stop) page =
      .ok ⟨Record.splice page.buffer page.position pieces.flatten,
        page.position + pieces.flatten.length⟩ := by
  induction pieces generalizing page with
  | nil => simp [Record.splice, pure, Except.pure]
  | cons piece pieces ih =>
    rw [List.flatten_cons, List.length_append] at fits
    have put : put stop page piece =
        .ok ⟨Record.splice page.buffer page.position piece, page.position + piece.length⟩ :=
      if_pos (by omega)
    have length : (Record.splice page.buffer page.position piece).length = page.buffer.length :=
      Record.length_splice (by omega)
    rw [List.foldlM_cons, put, except_ok_bind, ih (by dsimp only; omega) (by rwa [length]),
      Record.splice_splice (by omega), List.flatten_cons, List.length_append, Nat.add_assoc]

theorem fill_eq {page : Page} {size : Nat} {pieces : List (List UInt8)}
    (addressable : page.buffer.length ≤ sizeMax) (room : page.position + size ≤ page.buffer.length)
    (own : pieces.flatten.length = size) :
    page.fill size pieces =
      .ok ⟨Record.splice page.buffer page.position pieces.flatten, page.position + size⟩ := by
  have sum : Checked.add page.position size = .ok (page.position + size) := if_pos (by omega)
  have slot : Checked.slice page.buffer page.position (page.position + size) =
      .ok ((page.buffer.drop page.position).take (page.position + size - page.position)) :=
    if_pos ⟨Nat.le_add_right _ _, room⟩
  rw [fill, sum, except_ok_bind, slot, except_ok_bind, puts_eq (by omega) room, except_ok_bind, own]
  exact congrArg Checked.expect (if_pos rfl)

variable {α : Type} {format : Format α} {value : α} {page : Page} {pieces : List (List UInt8)}

/-- Writing in place does as writing at once does, and a refusal leaves the page as it was. -/
theorem write_simulates (addressable : page.buffer.length ≤ sizeMax)
    (few : format.size value < 0x8000000000000000)
    (sized : (format.bytes value).length = format.size value)
    (cut : pieces.flatten = format.bytes value) (version : Int32) (most : Nat) :
    ∃ answer after, page.write version (format.size value) pieces most = .ok (answer, after) ∧
      Record.write format version value most page.buffer page.position =
        answer.map (fun header => (header, after.buffer, after.position)) ∧
      ∀ error, answer = .error error → after = page := by
  -- A body in memory is short enough for the sum of the sizes not to wrap.
  have sum : Checked.add headerSize (format.size value) = .ok (headerSize + format.size value) :=
    if_pos (by
      have bound : headerSize + 0x8000000000000000 ≤ sizeMax := by decide
      omega)
  rw [write, sum, except_ok_bind, Record.write]
  cases made : Header.ofSize version (headerSize + format.size value) with
  | error error => exact ⟨.error error, page, rfl, rfl, fun _ _ => rfl⟩
  | ok header =>
    obtain ⟨small, made⟩ := Header.ofSize_eq_ok_iff.mp made
    have size : header.size = headerSize + format.size value := by rw [made, Header.size_ofNat small]
    have nonneg : 0 ≤ header.length := by
      rw [made]
      exact Header.zero_le_ofNat small
    simp only [Guarded.length_eq_ok nonneg, except_ok_bind]
    by_cases limit : most < header.size
    · simp only [if_pos limit]
      exact ⟨_, page, rfl, rfl, fun _ _ => rfl⟩
    by_cases room : page.buffer.length - page.position < header.size
    · simp only [if_neg limit, if_pos room]
      exact ⟨_, page, rfl, rfl, fun _ _ => rfl⟩
    have whole : ([Format.int32.bytes header.version, Format.int32.bytes header.length] ++
        pieces).flatten = Header.format.bytes header ++ format.bytes value := by
      rw [List.flatten_append, cut]
      rfl
    have nonempty : 0 < headerSize := by decide
    have filled : page.fill header.size
        ([Format.int32.bytes header.version, Format.int32.bytes header.length] ++ pieces) =
          .ok ⟨Record.splice page.buffer page.position
            (Header.format.bytes header ++ format.bytes value), page.position + header.size⟩ := by
      rw [fill_eq addressable (by omega), whole]
      rw [whole, List.length_append, Header.length_bytes, sized, size]
    simp only [if_neg limit, if_neg room, filled]
    exact ⟨.ok header, _, rfl, rfl, fun _ failed => by cases failed⟩

theorem write_eq_of_write {version : Int32} {most position' : Nat} {header : Header}
    {buffer' : List UInt8} (addressable : page.buffer.length ≤ sizeMax)
    (sized : (format.bytes value).length = format.size value)
    (cut : pieces.flatten = format.bytes value)
    (written : Record.write format version value most page.buffer page.position =
      .ok (header, buffer', position')) :
    page.write version (format.size value) pieces most = .ok (.ok header, ⟨buffer', position'⟩) := by
  have small := (Record.write_eq_ok_iff.mp written).1.1
  obtain ⟨answer, after, done, same, -⟩ :=
    write_simulates addressable (by omega) sized cut version most
  rw [written] at same
  cases answer with
  | ok header' =>
    cases same
    exact done
  | error error => cases same

theorem succeeds_iff {version : Int32} {most : Nat} {answer : Except Error Header} {after : Page}
    (same : Record.write format version value most page.buffer page.position =
      answer.map (fun header => (header, after.buffer, after.position))) :
    (∃ header, answer = .ok header) ↔
      headerSize + format.size value ≤ 2147483647 ∧ headerSize + format.size value ≤ most ∧
        headerSize + format.size value ≤ page.buffer.length - page.position := by
  have nonempty : 0 < headerSize := by decide
  constructor
  · rintro ⟨header, rfl⟩
    obtain ⟨⟨small, limit, room⟩, -⟩ := Record.write_eq_ok_iff.mp same
    omega
  · rintro ⟨small, limit, room⟩
    have fits : page.position + (headerSize + format.size value) ≤ page.buffer.length := by omega
    cases answer with
    | ok header => exact ⟨header, rfl⟩
    | error error =>
      cases same.symm.trans (Record.write_eq_ok_iff.mpr
        ⟨⟨Nat.lt_succ_of_le small, limit, fits⟩, rfl, rfl, rfl⟩)

/-- A record with a header and a content has been written to a page, and the rest of the page is as
it was before. -/
structure Gains (version : Int32) (content : List UInt8) (before : Page) (header : Header)
    (after : Page) : Prop where
  made : Header.forBody version (UInt64.ofNat content.length) = .ok header
  size : header.size = headerSize + content.length
  buffer : after.buffer = before.buffer.take before.position ++
    (BigEndian.digits 4 version.toUInt32.toNat ++ BigEndian.digits 4 (headerSize + content.length) ++
      content) ++ before.buffer.drop (before.position + (headerSize + content.length))
  length : after.buffer.length = before.buffer.length
  outside : ∀ i, i < before.position ∨ after.position ≤ i → after.buffer[i]? = before.buffer[i]?
  position : after.position = before.position + (headerSize + content.length)

theorem gains_of_write {version : Int32} {most : Nat} {header : Header} {after : Page}
    (few : format.size value < 0x8000000000000000)
    (sized : (format.bytes value).length = format.size value)
    (written : Record.write format version value most page.buffer page.position =
      .ok (header, after.buffer, after.position)) :
    Gains version (format.bytes value) page header after := by
  obtain ⟨⟨small, -, room⟩, made, changed, moved⟩ := Record.write_eq_ok_iff.mp written
  have bytes : Record.bytes format header value =
      BigEndian.digits 4 version.toUInt32.toNat ++ BigEndian.digits 4 (headerSize + format.size value) ++
        format.bytes value := by
    rw [Record.bytes, made, Header.bytes_ofNat small]
  have length : (Record.bytes format header value).length = headerSize + format.size value := by
    rw [Record.bytes, List.length_append, Header.length_bytes, sized]
  rw [← length] at room moved
  exact {
    made := by rw [sized, Header.forBody_ofNat few, Header.ofSize_eq_ok_iff.mpr ⟨small, made⟩]
    size := by rw [made, Header.size_ofNat small, sized]
    buffer := by rw [changed, Record.splice, length, bytes, sized]
    length := by rw [changed, Record.length_splice room]
    outside := by
      rw [changed, moved]
      exact fun i => Record.getElem?_splice_of_outside room
    position := by rw [moved, length, sized] }

theorem reads_back {version : Int32} {most most' : Nat} {header : Header} {after : Page}
    (sized : (format.bytes value).length = format.size value)
    (written : Record.write format version value most page.buffer page.position =
      .ok (header, after.buffer, after.position)) (within : headerSize + format.size value ≤ most') :
    Record.read version most' after.buffer page.position = .ok (header, format.bytes value) := by
  obtain ⟨stands, -⟩ := Record.stands_of_write written
  refine Record.read_eq_ok_iff.mpr ⟨⟨stands.version, stands.nonneg, ?_, ?_⟩, stands.within,
    stands.found⟩
  · rwa [stands.size]
  · rw [stands.size, sized]

end Page

theorem Reader.finished_iff_of_passes {content taken : List UInt8} {cursor : Cursor}
    (passes : (Cursor.start content).Passes taken cursor) :
    (∃ after, finished cursor = .ok () after) ↔ taken.length = content.length := by
  have rest : content = taken ++ cursor.rest := passes.rest
  simp only [finished_eq_ok_iff, exists_and_left, exists_eq', and_true]
  rw [rest, List.length_append, ← List.length_eq_zero_iff]
  omega

/-- A record is written whole or not at all. It is written where it fits its length field, the limit
and the buffer, wherever the position is; it is then read back, and finished by as many bytes as it
has. -/
theorem Page.write_whole_or_nothing {α : Type} {format : Format α} {value : α}
    (sized : (format.bytes value).length = format.size value)
    (few : format.size value < 0x8000000000000000) {page : Page}
    (addressable : page.buffer.length ≤ sizeMax) {pieces : List (List UInt8)}
    (cut : pieces.flatten = format.bytes value) (version : Int32) (most : Nat) :
    ∃ answer after, page.write version (format.size value) pieces most = .ok (answer, after) ∧
      Record.write format version value most page.buffer page.position =
        answer.map (fun header => (header, after.buffer, after.position)) ∧
      ((∃ header, answer = .ok header) ↔
        headerSize + format.size value ≤ 2147483647 ∧ headerSize + format.size value ≤ most ∧
          headerSize + format.size value ≤ page.buffer.length - page.position) ∧
      (∀ error, answer = .error error → after = page) ∧
      (∀ header, answer = .ok header → page.Gains version (format.bytes value) header after ∧
        ∀ most' ≥ headerSize + format.size value,
          Record.read version most' after.buffer page.position = .ok (header, format.bytes value)) ∧
      ∀ taken cursor, (Cursor.start (format.bytes value)).Passes taken cursor →
        ((∃ after, Reader.finished cursor = .ok () after) ↔ taken.length = format.size value) := by
  obtain ⟨answer, after, written, same, unchanged⟩ :=
    write_simulates addressable few sized cut version most
  refine ⟨answer, after, written, same, succeeds_iff same, unchanged, ?_, ?_⟩
  · rintro header rfl
    exact ⟨gains_of_write few sized same, fun most' within => reads_back sized same within⟩
  · intro taken cursor passes
    rw [Reader.finished_iff_of_passes passes, sized]

def Page.sheet (position : Nat) : Page := ⟨List.replicate 16 255, position⟩

/-- A word in a record fills such a page, and has no place on it from a later position on. -/
theorem Page.write_whole_or_nothing_sheet :
    (Format.int64.bytes 7).length = Format.int64.size 7 ∧
    Format.int64.size 7 < 0x8000000000000000 ∧
    (∀ position, (Page.sheet position).buffer.length ≤ sizeMax) ∧
    [[0, 0, 0, 0], [0, 0, 0, 7]].flatten = Format.int64.bytes 7 ∧
    (Page.sheet 0).Gains 1 (Format.int64.bytes 7) ⟨1, 16⟩
      ⟨[0, 0, 0, 1, 0, 0, 0, 16, 0, 0, 0, 0, 0, 0, 0, 7], 16⟩ ∧
    (Page.sheet 6).write 1 8 [[0, 0, 0, 0], [0, 0, 0, 7]] 16 =
      .ok (.error (.tooSmall 16 10), Page.sheet 6) := by
  have few : Format.int64.size 7 < 0x8000000000000000 := by decide
  have addressable (position : Nat) : (Page.sheet position).buffer.length ≤ sizeMax := by
    rw [Page.sheet, List.length_replicate]
    decide
  obtain ⟨answer, after, written, -, -, -, gains, -⟩ := @Page.write_whole_or_nothing _ Format.int64 7
    rfl few (Page.sheet 0) (addressable 0) [[0, 0, 0, 0], [0, 0, 0, 7]] rfl 1 16
  obtain ⟨answer', after', written', same', -, unchanged, -⟩ := @Page.write_whole_or_nothing _
    Format.int64 7 rfl few (Page.sheet 6) (addressable 6) [[0, 0, 0, 0], [0, 0, 0, 7]] rfl 1 16
  refine ⟨rfl, few, addressable, rfl, ?_, ?_⟩
  · replace written : .ok (.ok ⟨1, 16⟩, ⟨[0, 0, 0, 1, 0, 0, 0, 16, 0, 0, 0, 0, 0, 0, 0, 7], 16⟩) =
        Except.ok (answer, after) := written
    cases written
    exact (gains _ rfl).1
  · cases answer' with
    | ok header => cases same'
    | error error =>
      cases unchanged error rfl
      cases same'
      exact written'

end TabletRecords.Wire
