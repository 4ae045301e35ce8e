import TabletRecords.Wire.BigEndian
import TabletRecords.Wire.Error

/-!
Reading from a position in a buffer. A read that lacks bytes leaves the position where it was; a
byte that is read and found illegal stays consumed, and so do all earlier reads of a sequence.
-/
namespace TabletRecords.Wire

/-- The largest size or position that an address can hold. -/
def sizeMax : Nat := UInt64.size - 1

/-- The bytes still to be read, and how many lie before them in the buffer. -/
structure Cursor where
  rest : List UInt8
  position : Nat
deriving DecidableEq

namespace Cursor

def start (buffer : List UInt8) : Cursor := ⟨buffer, 0⟩

/-- A position in a buffer; its end is one too. -/
def at? (buffer : List UInt8) (position : Nat) : Except Error Cursor :=
  if buffer.length < position then .error (.tooSmall position buffer.length)
  else .ok ⟨buffer.drop position, position⟩

def remaining (cursor : Cursor) : Nat := cursor.rest.length

def advance (cursor : Cursor) (n : Nat) : Cursor :=
  ⟨cursor.rest.drop n, cursor.position + n⟩

end Cursor

/-- A read moves a cursor, also where it fails. -/
abbrev Reader := EStateM Error Cursor

namespace Reader

def corrupt {α : Type} (what : Corruption) : Reader α := throw (.corrupt what)

def remaining : Reader Nat := return (← get).remaining

def take (n : Nat) : Reader (List UInt8) := fun cursor =>
  if cursor.remaining < n then .error (.tooSmall n cursor.remaining) cursor
  else .ok (cursor.rest.take n) (cursor.advance n)

def number (width : Nat) : Reader Nat := BigEndian.value <$> take width

def byte : Reader UInt8 := UInt8.ofNat <$> number 1

def uint32 : Reader UInt32 := UInt32.ofNat <$> number 4

def uint64 : Reader UInt64 := UInt64.ofNat <$> number 8

def int32 : Reader Int32 := UInt32.toInt32 <$> uint32

def int64 : Reader Int64 := UInt64.toInt64 <$> uint64

def bool : Reader Bool := do
  match ← byte with
  | 0 => return false
  | 1 => return true
  | other => corrupt (.invalidBool other)

def tagged {α : Type} (family : String) (ofTag? : UInt8 → Option α) : Reader α := do
  let tag ← byte
  match ofTag? tag with
  | some value => return value
  | none => corrupt (.unknownTag family tag)

/-- The number of elements that follow. Each takes at least `least` bytes, so a number for which
too few bytes remain is refused before any element is read. -/
def count (least : Nat) : Reader Nat := do
  let n := (← uint32).toNat
  let needed := min (n * least) sizeMax
  let remaining ← remaining
  if remaining < needed then throw (.tooSmall needed remaining)
  return n

def finished : Reader Unit := do
  match ← remaining with
  | 0 => return ()
  | n => corrupt (.trailingBytes n)

end Reader

end TabletRecords.Wire
