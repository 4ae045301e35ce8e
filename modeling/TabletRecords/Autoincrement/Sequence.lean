import TabletRecords.Identifier

/-!
Auto-increment sequences: for each auto-increment column of a tablet, the value that it hands out
next. A sequence names no column twice, so it is a finite map with an order of its own.
-/
namespace TabletRecords.Autoincrement

structure Interval where
  columnId : UInt64
  nextValue : UInt64
deriving DecidableEq

namespace Interval

def format : Wire.Format Interval :=
  (Wire.Format.uint64.pair Wire.Format.uint64).map
    (fun (columnId, nextValue) => { columnId, nextValue })
    (fun interval => (interval.columnId, interval.nextValue))

instance : Text.Printable Interval :=
  ⟨fun interval => .record "AutoincInterval"
    [("column_id", Text.tree interval.columnId), ("next_value", Text.tree interval.nextValue)]⟩

end Interval

structure Sequence where
  intervals : List Interval := []
deriving DecidableEq

namespace Sequence

def columns (sequence : Sequence) : List UInt64 := sequence.intervals.map (·.columnId)

def isValid (sequence : Sequence) : Bool := sequence.columns.Nodup

def next? (sequence : Sequence) (columnId : UInt64) : Option UInt64 :=
  (sequence.intervals.find? (·.columnId = columnId)).map (·.nextValue)

def format : Wire.Format Sequence :=
  (Interval.format.counted 16 16).refine
    (fun intervals =>
      if (mk intervals).isValid then .ok ⟨intervals⟩ else .error (.corrupt .duplicateColumn))
    intervals

instance : Inhabited Sequence := ⟨{}⟩

instance : Text.Printable Sequence :=
  ⟨fun sequence => .record "TabletAutoincSeq" [("intervals", Text.tree sequence.intervals)]⟩

end Sequence

end TabletRecords.Autoincrement
