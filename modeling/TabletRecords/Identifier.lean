import TabletRecords.Wire.Tagged

/-!
Names and times of tablets: the log stream that a tablet belongs to, the tablet itself, logical
timestamps, and the dialect that a tablet's data was written under. Every type has one value that
stands for none, and it is the default.
-/
namespace TabletRecords

/-- A log stream: the unit of replication that groups tablets under one log. -/
structure LogStreamId where
  value : Int64
deriving DecidableEq

namespace LogStreamId

def invalid : LogStreamId := ⟨-1⟩

def isValid (id : LogStreamId) : Bool := 0 ≤ id.value

instance : Inhabited LogStreamId := ⟨invalid⟩
instance : ToString LogStreamId := ⟨fun id => s!"ls{id.value}"⟩
instance : Text.Printable LogStreamId := ⟨fun id => .named "LsId" (Text.tree id.value)⟩
instance : Ord LogStreamId := ⟨fun a b => compare a.value b.value⟩
instance : LE LogStreamId := ⟨fun a b => a.value ≤ b.value⟩
instance (a b : LogStreamId) : Decidable (a ≤ b) := inferInstanceAs (Decidable (a.value ≤ b.value))
instance : Max LogStreamId := maxOfLe
instance : Min LogStreamId := minOfLe

def format : Wire.Format LogStreamId := Wire.Format.int64.map mk value

end LogStreamId

structure TabletId where
  value : UInt64
deriving DecidableEq

namespace TabletId

def invalid : TabletId := ⟨0⟩

def isValid (id : TabletId) : Bool := id ≠ invalid

instance : Inhabited TabletId := ⟨invalid⟩
instance : ToString TabletId := ⟨fun id => s!"t{id.value}"⟩
instance : Text.Printable TabletId := ⟨fun id => .named "TabletId" (Text.tree id.value)⟩
instance : Ord TabletId := ⟨fun a b => compare a.value b.value⟩
instance : LE TabletId := ⟨fun a b => a.value ≤ b.value⟩
instance (a b : TabletId) : Decidable (a ≤ b) := inferInstanceAs (Decidable (a.value ≤ b.value))
instance : Max TabletId := maxOfLe
instance : Min TabletId := minOfLe

def format : Wire.Format TabletId := Wire.Format.uint64.map mk value

end TabletId

/-- A logical timestamp, used for versions and for the order of recovery. -/
structure Scn where
  value : Int64
deriving DecidableEq

namespace Scn

def invalid : Scn := ⟨-1⟩

def zero : Scn := ⟨0⟩

/-- Where a new tablet starts its checkpoint watermarks. -/
def firstCheckpoint : Scn := ⟨1⟩

def isValid (scn : Scn) : Bool := 0 ≤ scn.value

instance : Inhabited Scn := ⟨invalid⟩
instance : ToString Scn := ⟨fun scn => s!"scn:{scn.value}"⟩
instance : Text.Printable Scn := ⟨fun scn => .named "Scn" (Text.tree scn.value)⟩
instance : Ord Scn := ⟨fun a b => compare a.value b.value⟩
instance : LE Scn := ⟨fun a b => a.value ≤ b.value⟩
instance (a b : Scn) : Decidable (a ≤ b) := inferInstanceAs (Decidable (a.value ≤ b.value))
instance : Max Scn := maxOfLe
instance : Min Scn := minOfLe

def format : Wire.Format Scn := Wire.Format.int64.map mk value

end Scn

/-- The dialect that a tablet's data was written under. -/
inductive CompatMode where
  | invalid
  | mySql
  | oracle
deriving DecidableEq

namespace CompatMode

instance : Wire.Tagged CompatMode where
  family := "compat mode"
  members := [invalid, mySql, oracle]
  label
    | invalid => "Invalid"
    | mySql => "MySql"
    | oracle => "Oracle"
  mem_members value := by cases value <;> decide
  nodup := by decide
  length_le := by decide

def isValid (mode : CompatMode) : Bool := mode ≠ invalid

instance : Inhabited CompatMode := ⟨invalid⟩
instance : Ord CompatMode := ⟨fun a b => compare (Wire.Tagged.index a) (Wire.Tagged.index b)⟩
instance : LE CompatMode := ⟨fun a b => Wire.Tagged.index a ≤ Wire.Tagged.index b⟩
instance (a b : CompatMode) : Decidable (a ≤ b) :=
  inferInstanceAs (Decidable (Wire.Tagged.index a ≤ Wire.Tagged.index b))
instance : Max CompatMode := maxOfLe
instance : Min CompatMode := minOfLe

end CompatMode

end TabletRecords
