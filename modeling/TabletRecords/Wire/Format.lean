import TabletRecords.Wire.Intake

/-!
Formats. A format holds the four sides of one wire form in one place: the bytes of a value, their
number computed from the value's shape alone, the lists that a copy of the value keeps in memory,
and the read that takes a value in again. Every record is composed of the formats of its fields,
so the order of its fields is stated once for writing and reading.
-/
namespace TabletRecords.Wire

/-- One wire form of a type of values. -/
structure Format (α : Type) where
  bytes : α → List UInt8
  size : α → Nat
  /-- The memory of each list of a value, in the order in which the lists are read. -/
  charges : α → List Nat
  read : Intake α

namespace Format

variable {α β : Type}

def plain (bytes : α → List UInt8) (size : α → Nat) (read : Reader α) : Format α where
  bytes := bytes
  size := size
  charges _ := []
  read := .ofReader read

def uint32 : Format UInt32 :=
  plain (fun n => BigEndian.digits 4 n.toNat) (fun _ => 4) Reader.uint32

def uint64 : Format UInt64 :=
  plain (fun n => BigEndian.digits 8 n.toNat) (fun _ => 8) Reader.uint64

def int32 : Format Int32 :=
  plain (fun n => BigEndian.digits 4 n.toUInt32.toNat) (fun _ => 4) Reader.int32

def int64 : Format Int64 :=
  plain (fun n => BigEndian.digits 8 n.toUInt64.toNat) (fun _ => 8) Reader.int64

def bool : Format Bool :=
  plain (fun b => [if b then 1 else 0]) (fun _ => 1) Reader.bool

def raw : Format (List UInt8) :=
  plain (fun bytes => bytes) List.length (do Reader.take (← Reader.remaining))

def pair (first : Format α) (second : Format β) : Format (α × β) where
  bytes value := first.bytes value.1 ++ second.bytes value.2
  size value := first.size value.1 + second.size value.2
  charges value := first.charges value.1 ++ second.charges value.2
  read := return (← first.read, ← second.read)

/-- Another type of values, of which some stored values may be refused. -/
def refine (format : Format α) (accept : α → Except Error β) (stored : β → α) : Format β where
  bytes value := format.bytes (stored value)
  size value := format.size (stored value)
  charges value := format.charges (stored value)
  read := do
    match accept (← format.read) with
    | .ok value => return value
    | .error error => Intake.refuse error

def map (format : Format α) (pack : α → β) (unpack : β → α) : Format β :=
  format.refine (fun stored => .ok (pack stored)) unpack

def optional (format : Format α) : Format (Option α) where
  bytes
    | none => bool.bytes false
    | some value => bool.bytes true ++ format.bytes value
  size value := 1 + (value.map format.size).getD 0
  charges value := (value.map format.charges).getD []
  read := do
    if ← bool.read then return some (← format.read) else return none

/-- A list: the number of its elements in four bytes, and the elements. An element takes at least
`least` bytes in the buffer and exactly `memory` bytes in the arena, which pays once the whole list
is read. -/
def counted (element : Format α) (least memory : Nat) : Format (List α) where
  bytes items := BigEndian.digits 4 items.length ++ items.flatMap element.bytes
  size items := 4 + Arena.total (items.map element.size)
  charges items := Arena.listCharges items.length memory
  read := do
    let n ← Intake.ofReader (Reader.count least)
    let items ← Intake.replicate element.read n
    (Arena.listCharges n memory).forM Intake.charge
    return items

def footprint (format : Format α) (value : α) : Nat := Arena.total (format.charges value)

end Format

end TabletRecords.Wire
