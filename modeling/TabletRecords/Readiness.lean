import TabletRecords.Wire.Tagged

/-!
Readiness of a replica: how far a restored tablet is brought back, and whether its data is all
there. Both are packed into one word, a byte each, and the rest of the word is zero.
-/
namespace TabletRecords

/-- How much of a restored tablet has been brought back. -/
inductive RestoreStatus where
  | full
  | pending
  | empty
  /-- What describes the storage units is restored; their data is still being fetched. -/
  | minorAndMajorMeta
deriving DecidableEq

instance : Wire.Tagged RestoreStatus where
  family := "restore status"
  members := [.full, .pending, .empty, .minorAndMajorMeta]
  label
    | .full => "Full"
    | .pending => "Pending"
    | .empty => "Empty"
    | .minorAndMajorMeta => "MinorAndMajorMeta"
  mem_members value := by cases value <;> decide
  nodup := by decide
  length_le := by decide

inductive DataStatus where
  | complete
  | incomplete
deriving DecidableEq

instance : Wire.Tagged DataStatus where
  family := "data status"
  members := [.complete, .incomplete]
  label
    | .complete => "Complete"
    | .incomplete => "Incomplete"
  mem_members value := by cases value <;> decide
  nodup := by decide
  length_le := by decide

structure Readiness where
  restore : RestoreStatus := .full
  data : DataStatus := .complete
deriving DecidableEq

namespace Readiness

def fresh : Readiness := {}

def restorePending : Readiness := ⟨.pending, .incomplete⟩

def isPending (readiness : Readiness) : Bool := readiness.restore = .pending

def isComplete (readiness : Readiness) : Bool := readiness.data = .complete

/-- A tablet of which nothing is restored cannot have all of its data. -/
def isValid (readiness : Readiness) : Bool := !(readiness.isPending && readiness.isComplete)

/-- The word: the restore status in the lowest byte, the data status in the next one. -/
def pack (readiness : Readiness) : UInt64 :=
  UInt64.ofNat (Wire.Tagged.index readiness.restore + 256 * Wire.Tagged.index readiness.data)

def unpack (packed : UInt64) : Except Wire.Error Readiness :=
  let restoreCode := packed % 256
  let dataCode := packed / 256 % 256
  match Wire.Tagged.members[restoreCode.toNat]? with
  | none => .error (.corrupt (.unknownRestoreStatus restoreCode))
  | some restore =>
    match Wire.Tagged.members[dataCode.toNat]? with
    | none => .error (.corrupt (.unknownDataStatus dataCode))
    | some data =>
      if packed / 65536 = 0 then .ok ⟨restore, data⟩
      else .error (.corrupt (.reservedReadinessBits packed))

def format : Wire.Format Readiness := Wire.Format.uint64.refine unpack pack

instance : Inhabited Readiness := ⟨fresh⟩

instance : Text.Printable Readiness :=
  ⟨fun readiness => .record "TabletHaStatus"
    [("restore_status", Text.tree readiness.restore), ("data_status", Text.tree readiness.data)]⟩

end Readiness

end TabletRecords
