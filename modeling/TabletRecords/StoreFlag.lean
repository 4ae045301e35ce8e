import TabletRecords.Wire.Format

/-!
Flags of a tablet's table store. They are stored as a set of bits, of which one has a meaning.
-/
namespace TabletRecords

structure StoreFlag where
  withMajor : Bool := true
deriving DecidableEq

namespace StoreFlag

def withoutMajor : StoreFlag := ⟨false⟩

/-- The set of bits: the lowest one says that the major storage unit is missing. -/
def toBits (flag : StoreFlag) : UInt64 := if flag.withMajor then 0 else 1

def ofBits (bits : UInt64) : Except Wire.Error StoreFlag :=
  if bits = 0 then .ok ⟨true⟩
  else if bits = 1 then .ok ⟨false⟩
  else .error (.corrupt (.unknownFlagBits bits))

def format : Wire.Format StoreFlag := Wire.Format.uint64.refine ofBits toBits

instance : Inhabited StoreFlag := ⟨{}⟩

instance : Text.Printable StoreFlag :=
  ⟨fun flag => .record "TableStoreFlag" [("with_major_sstable", Text.tree flag.withMajor)]⟩

end StoreFlag

end TabletRecords
