import TabletRecords.Proofs.Wire.Scalar
import TabletRecords.Wire.Record

/-!
Framing. A record is written exactly where it fits, and then it stands whole in the buffer; it is
read exactly where it stands whole, whatever is before it and after it.
-/
namespace TabletRecords.Wire

open Arena (Account total)
open Outcome

theorem Reader.finished_eq_ok_iff {before after : Cursor} {u : Unit} :
    finished before = .ok u after ↔ before.rest = [] ∧ before = after := by
  simp only [finished, bind_eq_ok_iff]
  constructor
  · rintro ⟨remaining, _, h, later⟩
    cases h
    cases none : before.remaining with
    | zero =>
      rw [none] at later
      cases later
      exact ⟨List.eq_nil_of_length_eq_zero none, rfl⟩
    | succ n =>
      rw [none] at later
      cases later
  · rintro ⟨none, rfl⟩
    have remaining : before.remaining = 0 := by rw [Cursor.remaining, none, List.length_nil]
    refine ⟨before.remaining, before, rfl, ?_⟩
    rw [remaining]
    rfl

namespace Header

theorem format_lawful : format.Lawful (fun _ => True) := by
  refine ((Format.int32_lawful.pair Format.int32_lawful).map _ _ (fun _ => rfl)
    (fun _ => rfl)).congr ?_
  simp

theorem length_bytes (header : Header) : (format.bytes header).length = headerSize :=
  format_lawful.length_bytes header

theorem ofSize_eq_ok_iff {version : Int32} {size : Nat} {header : Header} :
    ofSize version size = .ok header ↔
      size < 0x80000000 ∧ header = ⟨version, Int32.ofNat size⟩ := by
  unfold ofSize
  split
  · next h => simp [h, eq_comm]
  · next h => simp [h]

theorem toInt_ofNat {size : Nat} (h : size < 0x80000000) : (Int32.ofNat size).toInt = size :=
  Int32.toInt_ofNat_of_lt h

theorem zero_le_ofNat {size : Nat} (h : size < 0x80000000) : 0 ≤ Int32.ofNat size := by
  rw [Int32.le_iff_toInt_le, toInt_ofNat h]
  exact Int.natCast_nonneg _

theorem size_ofNat {version : Int32} {size : Nat} (h : size < 0x80000000) :
    (Header.mk version (Int32.ofNat size)).size = size := by
  show (Int32.ofNat size).toInt.toNat = size
  rw [toInt_ofNat h, Int.toNat_natCast]

theorem length_eq_ofNat {header : Header} (h : 0 ≤ header.length) :
    header.length = Int32.ofNat header.size := by
  apply Int32.toInt_inj.mp
  have bound := header.length.toInt_lt
  have nonneg : 0 ≤ header.length.toInt := by simpa using Int32.le_iff_toInt_le.mp h
  have size : (header.size : Int) = header.length.toInt := Int.toNat_of_nonneg nonneg
  have small : header.size < 0x80000000 := by omega
  rw [toInt_ofNat small, size]

theorem size_lt (header : Header) : header.size < 0x80000000 := by
  have bound := header.length.toInt_lt
  rw [size]
  omega

theorem read_eq_ok_iff {expected : Int32} {most : Nat} {before after : Cursor} {header : Header} :
    read expected most before = .ok header after ↔
      (header.version = expected ∧ 0 ≤ header.length ∧ headerSize ≤ header.size ∧
        header.size ≤ most ∧ header.size ≤ before.remaining) ∧
      before.Passes (format.bytes header) after := by
  have bytes : ∀ version length, format.bytes ⟨version, length⟩ =
      BigEndian.digits 4 version.toUInt32.toNat ++ BigEndian.digits 4 length.toUInt32.toNat :=
    fun _ _ => rfl
  simp only [read, Reader.corrupt, bind_eq_ok_iff, throw_bind, ite_throw_eq_ok_iff,
    Reader.int32_exact.eq_ok_iff, true_and]
  constructor
  · rintro ⟨available, _, counted, version, middle, passes, known, length, _, passes', nonneg,
      outside, room, made⟩
    cases counted
    cases made
    have lengthOk : ¬length < 0 := nonneg
    refine ⟨⟨Decidable.not_not.mp known, Int32.not_lt.mp lengthOk, by omega, by omega,
      Nat.not_lt.mp room⟩, ?_⟩
    rw [bytes]
    exact Cursor.passes_append.mpr ⟨middle, passes, passes'⟩
  · rintro ⟨⟨known, nonneg, least, within, room⟩, passes⟩
    obtain ⟨version, length⟩ := header
    rw [bytes] at passes
    obtain ⟨middle, passes, passes'⟩ := Cursor.passes_append.mp passes
    exact ⟨before.remaining, before, rfl, version, middle, passes, Decidable.not_not.mpr known, length,
      after, passes', Int32.not_lt.mpr nonneg, by omega, Nat.not_lt.mpr room, rfl⟩

end Header

namespace Record

variable {α : Type} {format : Format α} {legal : α → Prop}

def bytes (format : Format α) (header : Header) (value : α) : List UInt8 :=
  Header.format.bytes header ++ format.bytes value

theorem length_bytes (lawful : format.Lawful legal) (header : Header) (value : α) :
    (bytes format header value).length = headerSize + format.size value := by
  rw [bytes, List.length_append, Header.length_bytes, lawful.length_bytes]

theorem splice_eq {buffer bytes : List UInt8} {position : Nat} :
    splice buffer position bytes =
      buffer.take position ++ (bytes ++ buffer.drop (position + bytes.length)) :=
  List.append_assoc ..

theorem prefix_drop_splice {buffer bytes : List UInt8} {position : Nat}
    (within : position ≤ buffer.length) : bytes <+: (splice buffer position bytes).drop position := by
  rw [splice_eq, List.drop_left' (List.length_take_of_le within)]
  exact List.prefix_append _ _

theorem length_splice {buffer bytes : List UInt8} {position : Nat}
    (room : position + bytes.length ≤ buffer.length) :
    (splice buffer position bytes).length = buffer.length := by
  simp only [splice_eq, List.length_append, List.length_take, List.length_drop]
  omega

theorem getElem?_splice_of_outside {buffer bytes : List UInt8} {position i : Nat}
    (room : position + bytes.length ≤ buffer.length)
    (outside : i < position ∨ position + bytes.length ≤ i) :
    (splice buffer position bytes)[i]? = buffer[i]? := by
  have front : (buffer.take position).length = position := List.length_take_of_le (by omega)
  rw [splice_eq]
  rcases outside with before | after
  · rw [List.getElem?_append_left (by omega), List.getElem?_take_of_lt before]
  · rw [List.getElem?_append_right (by omega), List.getElem?_append_right (by omega),
      List.getElem?_drop, front]
    congr 1
    omega

theorem prefix_drop_of_agree {bytes buffer other : List UInt8} {position : Nat}
    (found : bytes <+: buffer.drop position)
    (agree : ∀ i, position ≤ i → i < position + bytes.length → other[i]? = buffer[i]?) :
    bytes <+: other.drop position := by
  rw [List.prefix_iff_getElem?] at found ⊢
  intro i bound
  rw [← found i bound, List.getElem?_drop, List.getElem?_drop]
  exact agree _ (by omega) (by omega)

theorem le_length_of_agree {buffer other : List UInt8} {position size : Nat} (nonempty : 0 < size)
    (room : position + size ≤ buffer.length)
    (agree : ∀ i, position ≤ i → i < position + size → other[i]? = buffer[i]?) :
    position + size ≤ other.length := by
  have inside : position + size - 1 < buffer.length := by omega
  have last := agree (position + size - 1) (by omega) (by omega)
  rw [List.getElem?_eq_getElem inside] at last
  have bound := (List.getElem?_eq_some_iff.mp last).1
  omega

theorem write_eq_ok_iff {version : Int32} {value : α} {most position position' : Nat}
    {buffer buffer' : List UInt8} {header : Header} :
    write format version value most buffer position = .ok (header, buffer', position') ↔
      (headerSize + format.size value < 0x80000000 ∧ headerSize + format.size value ≤ most ∧
        position + (headerSize + format.size value) ≤ buffer.length) ∧
      header = ⟨version, Int32.ofNat (headerSize + format.size value)⟩ ∧
      buffer' = splice buffer position (bytes format header value) ∧
      position' = position + (headerSize + format.size value) := by
  simp only [write, except_bind_eq_ok_iff, Header.ofSize_eq_ok_iff, except_throw_bind,
    except_ite_throw_eq_ok_iff]
  constructor
  · rintro ⟨_, ⟨small, rfl⟩, limit, room, written⟩
    cases written
    rw [Header.size_ofNat small] at limit room
    rw [Header.size_ofNat small]
    have nonempty : 0 < headerSize := by decide
    exact ⟨⟨small, by omega, by omega⟩, rfl, rfl, rfl⟩
  · rintro ⟨⟨small, limit, room⟩, rfl, rfl, rfl⟩
    refine ⟨_, ⟨small, rfl⟩, ?_⟩
    rw [Header.size_ofNat small]
    exact ⟨by omega, by omega, rfl⟩

theorem write_eq_of_le {version : Int32} {value : α} {most most' : Nat}
    (admitted : headerSize + format.size value ≤ most)
    (admitted' : headerSize + format.size value ≤ most') (buffer : List UInt8) (position : Nat) :
    write format version value most buffer position =
      write format version value most' buffer position := by
  unfold write Header.ofSize
  by_cases small : headerSize + format.size value < 0x80000000
  · simp only [if_pos small, except_ok_bind, Header.size_ofNat small,
      if_neg (Nat.not_lt.mpr admitted), if_neg (Nat.not_lt.mpr admitted')]
  · rw [if_neg small]
    rfl

theorem outside_of_write (lawful : format.Lawful legal) {version : Int32} {value : α}
    {most position position' : Nat} {buffer buffer' : List UInt8} {header : Header}
    (written : write format version value most buffer position = .ok (header, buffer', position')) :
    buffer'.length = buffer.length ∧ position' ≤ buffer.length ∧
      ∀ i, i < position ∨ position' ≤ i → buffer'[i]? = buffer[i]? := by
  obtain ⟨⟨-, -, room⟩, made, changed, moved⟩ := write_eq_ok_iff.mp written
  have length := length_bytes lawful header value
  have stop : position' = position + (bytes format header value).length := by rw [moved, length]
  rw [← moved, stop] at room
  rw [changed, stop]
  exact ⟨length_splice room, room, fun i outside => getElem?_splice_of_outside room outside⟩

theorem read_eq_ok_iff {version : Int32} {most position : Nat} {buffer body : List UInt8}
    {header : Header} :
    read version most buffer position = .ok (header, body) ↔
      (header.version = version ∧ 0 ≤ header.length ∧ header.size ≤ most ∧
        header.size = headerSize + body.length) ∧
      position ≤ buffer.length ∧ Header.format.bytes header ++ body <+: buffer.drop position := by
  simp only [read, Cursor.at?, except_bind_eq_ok_iff]
  constructor
  · rintro ⟨cursor, found, taken⟩
    split at found <;> cases found
    next within =>
      split at taken <;> cases taken
      next after taken =>
        obtain ⟨⟨known, nonneg, least, limit, room⟩, passes, -⟩ := Header.read_eq_ok_iff.mp taken
        replace room : header.size ≤ (buffer.drop position).length := room
        replace passes : buffer.drop position = Header.format.bytes header ++ after.rest := passes
        have length := Header.length_bytes header
        have whole : header.size - headerSize ≤ after.rest.length := by
          rw [passes, List.length_append] at room
          omega
        refine ⟨⟨known, nonneg, limit, ?_⟩, Nat.not_lt.mp within, ?_⟩
        · rw [List.length_take_of_le whole]
          omega
        · rw [passes, List.prefix_append_right_inj]
          exact List.take_prefix _ _
  · rintro ⟨⟨known, nonneg, limit, size⟩, within, rest, found⟩
    have length := Header.length_bytes header
    have room : header.size ≤ (buffer.drop position).length := by
      rw [← found, List.length_append, List.length_append]
      omega
    have taken : Header.read version most ⟨buffer.drop position, position⟩ =
        .ok header ⟨body ++ rest, position + (Header.format.bytes header).length⟩ := by
      refine Header.read_eq_ok_iff.mpr ⟨⟨known, nonneg, by omega, limit, room⟩, ?_, rfl⟩
      rw [← found, List.append_assoc]
    refine ⟨_, if_neg (Nat.not_lt.mpr within), ?_⟩
    have own : (body ++ rest).take (header.size - headerSize) = body := by
      rw [size, Nat.add_sub_cancel_left, List.take_left]
    simp only [taken, own]
    rfl

theorem end_le_of_read {version : Int32} {most position : Nat} {buffer body : List UInt8}
    {header : Header} (taken : read version most buffer position = .ok (header, body)) :
    position + header.size ≤ buffer.length := by
  obtain ⟨⟨-, -, -, size⟩, within, found⟩ := read_eq_ok_iff.mp taken
  have fits := found.length_le
  rw [List.length_append, Header.length_bytes, ← size, List.length_drop] at fits
  omega

theorem headerSize_le_of_read {version : Int32} {most position : Nat} {buffer body : List UInt8}
    {header : Header} (taken : read version most buffer position = .ok (header, body)) :
    headerSize ≤ header.size := by
  obtain ⟨⟨-, -, -, size⟩, -⟩ := read_eq_ok_iff.mp taken
  omega

theorem read_of_agree {version : Int32} {most position : Nat} {buffer body other : List UInt8}
    {header : Header} (taken : read version most buffer position = .ok (header, body))
    (agree : ∀ i, position ≤ i → i < position + header.size → other[i]? = buffer[i]?) :
    read version most other position = .ok (header, body) := by
  have whole := headerSize_le_of_read taken
  have nonempty : 0 < headerSize := by decide
  have room := le_length_of_agree (by omega) (end_le_of_read taken) agree
  obtain ⟨⟨known, nonneg, limit, size⟩, -, found⟩ := read_eq_ok_iff.mp taken
  refine read_eq_ok_iff.mpr ⟨⟨known, nonneg, limit, size⟩, by omega, prefix_drop_of_agree found ?_⟩
  rw [List.length_append, Header.length_bytes, ← size]
  exact agree

theorem read_extract {version : Int32} {most position : Nat} {buffer body : List UInt8}
    {header : Header} (taken : read version most buffer position = .ok (header, body)) :
    read version most (buffer.extract position (position + header.size)) 0 = .ok (header, body) := by
  obtain ⟨accepted, -, found⟩ := read_eq_ok_iff.mp taken
  have length : (Header.format.bytes header ++ body).length = header.size := by
    rw [List.length_append, Header.length_bytes, accepted.2.2.2]
  rw [List.extract, Nat.add_sub_cancel_left, ← length, ← List.prefix_iff_eq_take.mp found]
  exact read_eq_ok_iff.mpr ⟨accepted, Nat.zero_le _, List.prefix_refl _⟩

/-- A record stands at a position of a buffer, within a limit. -/
structure Stands (format : Format α) (version : Int32) (most : Nat) (header : Header) (value : α)
    (buffer : List UInt8) (position : Nat) : Prop where
  version : header.version = version
  nonneg : 0 ≤ header.length
  limit : header.size ≤ most
  size : header.size = headerSize + format.size value
  within : position ≤ buffer.length
  found : bytes format header value <+: buffer.drop position

theorem stands_of_found {version : Int32} {value : α} {most position : Nat} {buffer : List UInt8}
    (small : headerSize + format.size value < 0x80000000)
    (limit : headerSize + format.size value ≤ most) (within : position ≤ buffer.length)
    (found : bytes format ⟨version, Int32.ofNat (headerSize + format.size value)⟩ value <+:
      buffer.drop position) :
    Stands format version most ⟨version, Int32.ofNat (headerSize + format.size value)⟩ value buffer
      position where
  version := rfl
  nonneg := Header.zero_le_ofNat small
  limit := by
    rw [Header.size_ofNat small]
    exact limit
  size := Header.size_ofNat small
  within := within
  found := found

theorem stands_of_write {version : Int32} {value : α} {most position position' : Nat}
    {buffer buffer' : List UInt8} {header : Header}
    (written : write format version value most buffer position = .ok (header, buffer', position')) :
    Stands format version most header value buffer' position ∧
      position' = position + header.size := by
  obtain ⟨⟨small, limit, room⟩, rfl, rfl, rfl⟩ := write_eq_ok_iff.mp written
  have within : position ≤ buffer.length := Nat.le_trans (Nat.le_add_right _ _) room
  refine ⟨stands_of_found small limit ?_ (prefix_drop_splice within), ?_⟩
  · rw [splice_eq, List.length_append, List.length_take_of_le within]
    exact Nat.le_add_right _ _
  · rw [Header.size_ofNat small]

theorem Stands.extract_eq (lawful : format.Lawful legal) {version : Int32} {most position : Nat}
    {header : Header} {value : α} {buffer : List UInt8}
    (stands : Stands format version most header value buffer position) :
    buffer.extract position (position + header.size) = bytes format header value := by
  have length : (bytes format header value).length = header.size := by
    rw [length_bytes lawful, stands.size]
  rw [List.extract, Nat.add_sub_cancel_left, ← length]
  exact (List.prefix_iff_eq_take.mp stands.found).symm

theorem Stands.read_eq_ok (lawful : format.Lawful legal) {version : Int32} {most position : Nat}
    {header : Header} {value : α} {buffer : List UInt8}
    (stands : Stands format version most header value buffer position) :
    read version most buffer position = .ok (header, format.bytes value) := by
  refine read_eq_ok_iff.mpr ⟨⟨stands.version, stands.nonneg, stands.limit, ?_⟩, stands.within,
    stands.found⟩
  rw [lawful.length_bytes, stands.size]

theorem Stands.headerSize_le {version : Int32} {most position : Nat} {header : Header} {value : α}
    {buffer : List UInt8} (stands : Stands format version most header value buffer position) :
    position + headerSize ≤ position + header.size := by
  rw [stands.size]
  omega

theorem Stands.end_le (lawful : format.Lawful legal) {version : Int32} {most position : Nat}
    {header : Header} {value : α} {buffer : List UInt8}
    (stands : Stands format version most header value buffer position) :
    position + header.size ≤ buffer.length :=
  end_le_of_read (stands.read_eq_ok lawful)

theorem Stands.of_agree (lawful : format.Lawful legal) {version : Int32} {most position : Nat}
    {header : Header} {value : α} {buffer other : List UInt8}
    (stands : Stands format version most header value buffer position)
    (agree : ∀ i < position + header.size, other[i]? = buffer[i]?) :
    Stands format version most header value other position where
  version := stands.version
  nonneg := stands.nonneg
  limit := stands.limit
  size := stands.size
  within := by
    have least := stands.headerSize_le
    have nonempty : 0 < headerSize := by decide
    have room := le_length_of_agree (by omega) (stands.end_le lawful) fun i _ => agree i
    omega
  found := by
    refine prefix_drop_of_agree stands.found ?_
    rw [length_bytes lawful, ← stands.size]
    exact fun i _ => agree i

theorem Stands.mono {version : Int32} {most most' position : Nat} {header : Header} {value : α}
    {buffer : List UInt8} (stands : Stands format version most header value buffer position)
    (higher : most ≤ most') : Stands format version most' header value buffer position :=
  { stands with limit := Nat.le_trans stands.limit higher }

theorem Stands.unique (lawful : format.Lawful legal) {version version' : Int32}
    {most most' position : Nat} {header header' : Header} {value value' : α} {buffer : List UInt8}
    (stands : Stands format version most header value buffer position)
    (stands' : Stands format version' most' header' value' buffer position)
    (hlegal : legal value) (hlegal' : legal value') : header = header' ∧ value = value' := by
  obtain ⟨rest, found⟩ := stands.found
  obtain ⟨rest', found'⟩ := stands'.found
  have same : (header, value) = (header', value') :=
    (Header.format_lawful.pair lawful).eq_of_bytes_append ⟨trivial, hlegal⟩ ⟨trivial, hlegal'⟩
      (found.trans found'.symm)
  cases same
  exact ⟨rfl, rfl⟩

theorem Stands.write_eq_ok (lawful : format.Lawful legal) {version : Int32} {most position start : Nat}
    {header : Header} {value : α} {buffer other : List UInt8}
    (stands : Stands format version most header value buffer position)
    (room : start + header.size ≤ other.length) :
    write format version value most other start =
      .ok (header, splice other start (buffer.extract position (position + header.size)),
        start + header.size) := by
  have small := header.size_lt
  have limit := stands.limit
  have made : header = ⟨header.version, Int32.ofNat header.size⟩ := by
    rw [← Header.length_eq_ofNat stands.nonneg]
  rw [stands.version] at made
  rw [stands.extract_eq lawful, write_eq_ok_iff, ← stands.size]
  exact ⟨⟨small, limit, room⟩, made, rfl, rfl⟩

theorem body_grows (lawful : format.Lawful legal) {before after : IntakeState} {error : IntakeError}
    (failed : body format before = .error error after) : before.Grows after := by
  simp only [body, bind_eq_error_iff] at failed
  rcases failed with failed | ⟨value, middle, taken, failed | ⟨_, _, -, h⟩⟩
  · exact lawful.grows failed
  · exact (lawful.read_eq_ok_iff.mp taken).2.grows.trans (Intake.ofReader_grows failed)
  · cases h

theorem body_grows_of_ok (lawful : format.Lawful legal) {before after : IntakeState} {value : α}
    (taken : body format before = .ok value after) : before.Grows after := by
  simp only [body, bind_eq_ok_iff, lawful.read_eq_ok_iff, Intake.ofReader_eq_ok_iff] at taken
  obtain ⟨value, middle, ⟨-, taken⟩, _, _, ⟨cursor, -, rfl⟩, h⟩ := taken
  cases h
  exact taken.grows

theorem body_eq_ok_iff (lawful : format.Lawful legal) {content : List UInt8} {account : Account}
    {value : α} {after : IntakeState} :
    body format { cursor := .start content, account } = .ok value after ↔
      (legal value ∧ content = format.bytes value ∧
        account.chargeAll (format.charges value) = .ok after.account) ∧
      after.charged = format.footprint value ∧ after.cursor = ⟨[], content.length⟩ := by
  simp only [body, bind_eq_ok_iff, lawful.read_eq_ok_iff, Intake.ofReader_eq_ok_iff,
    Reader.finished_eq_ok_iff]
  constructor
  · rintro ⟨value, middle, ⟨hlegal, ⟨rest, position⟩, fits, charged⟩, -, _,
      ⟨_, ⟨used, rfl⟩, rfl⟩, h⟩
    cases h
    rw [used, List.append_nil] at rest
    replace rest : content = format.bytes value := rest
    refine ⟨⟨hlegal, rest, fits⟩, by simpa [Format.footprint] using charged, ?_⟩
    show (⟨middle.cursor.rest, middle.cursor.position⟩ : Cursor) = _
    rw [used, position, rest, Cursor.start, Nat.zero_add]
  · rintro ⟨⟨hlegal, rfl, fits⟩, charged, cursor⟩
    refine ⟨value, after, ⟨hlegal, ⟨?_, ?_⟩, fits, by simpa [Format.footprint] using charged⟩, (), after,
      ⟨after.cursor, ⟨by rw [cursor], rfl⟩, rfl⟩, rfl⟩
    · simp [cursor, Cursor.start]
    · simp [cursor, Cursor.start]

end Record

end TabletRecords.Wire
