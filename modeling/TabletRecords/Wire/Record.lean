import TabletRecords.Wire.Format

/-!
Records: a header with the format version and the length of the whole record, and then the body.
A record is written whole or not at all, and a body is read from the bytes of its own record only.
-/
namespace TabletRecords.Wire

structure Header where
  version : Int32
  /-- The bytes of the record, the header's own among them. -/
  length : Int32
deriving DecidableEq

def headerSize : Nat := 8

namespace Header

def format : Format Header :=
  (Format.int32.pair Format.int32).map (fun (version, length) => ⟨version, length⟩)
    (fun header => (header.version, header.length))

def size (header : Header) : Nat := header.length.toInt.toNat

def ofSize (version : Int32) (size : Nat) : Except Error Header :=
  if size < 0x80000000 then .ok ⟨version, Int32.ofNat size⟩ else .error (.corrupt .lengthOverflow)

/-- The header of a record whose body has the given size. The sizes are words of an address, whose
sum wraps; no body in memory is so long. -/
def forBody (version : Int32) (bodySize : UInt64) : Except Error Header :=
  ofSize version (UInt64.ofNat headerSize + bodySize).toNat

/-- Read a header, and accept it if the version is the expected one and the length is that of a
record of at most `most` bytes that lies within the buffer. -/
def read (expected : Int32) (most : Nat) : Reader Header := do
  let available ← Reader.remaining
  let version ← Reader.int32
  if version ≠ expected then throw (.unexpectedVersion expected version)
  let length ← Reader.int32
  if length < 0 then Reader.corrupt (.negativeLength length)
  let header : Header := ⟨version, length⟩
  if header.size < headerSize ∨ most < header.size then
    Reader.corrupt (.lengthOutside header.size headerSize most)
  if available < header.size then throw (.tooSmall header.size available)
  return header

instance : Text.Printable Header :=
  ⟨fun header => .record "RecordHeader"
    [("version", Text.tree header.version), ("length", Text.tree header.length)]⟩

end Header

namespace Record

def splice (buffer : List UInt8) (position : Nat) (bytes : List UInt8) : List UInt8 :=
  buffer.take position ++ bytes ++ buffer.drop (position + bytes.length)

/-- Write a value as a record of at most `most` bytes into a buffer, at a position. The answer holds
the header, the changed buffer and the position after the record. -/
def write {α : Type} (format : Format α) (version : Int32) (value : α) (most : Nat)
    (buffer : List UInt8) (position : Nat) : Except Error (Header × List UInt8 × Nat) := do
  let header ← Header.ofSize version (headerSize + format.size value)
  if most < header.size then throw (.corrupt (.lengthExceeds header.size most))
  let remaining := buffer.length - position
  if remaining < header.size then throw (.tooSmall header.size remaining)
  let bytes := Header.format.bytes header ++ format.bytes value
  return (header, splice buffer position bytes, position + header.size)

def read (version : Int32) (most : Nat) (buffer : List UInt8) (position : Nat) :
    Except Error (Header × List UInt8) := do
  let cursor ← Cursor.at? buffer position
  match Header.read version most cursor with
  | .ok header after => return (header, after.rest.take (header.size - headerSize))
  | .error error _ => throw error

def body {α : Type} (format : Format α) : Intake α := do
  let value ← format.read
  Intake.ofReader Reader.finished
  return value

end Record

end TabletRecords.Wire
