import TabletRecords.Charging
import TabletRecords.Settings

/-!
Tablets in memory. A tablet starts out uninitialized; once initialized it has a descriptor and
remembers the arena that pays for the descriptor's lists.
-/
namespace TabletRecords

open Arena (ArenaId)

inductive Tablet where
  | uninitialized
  | initialized (descriptor : Descriptor) (arena : ArenaId)

namespace Tablet

instance : Inhabited Tablet := ⟨uninitialized⟩

def descriptor : Tablet → Descriptor
  | uninitialized => .blank
  | initialized descriptor _ => descriptor

def arena? : Tablet → Option ArenaId
  | uninitialized => none
  | initialized _ arena => some arena

def isInitialized : Tablet → Bool
  | uninitialized => false
  | initialized _ _ => true

def isValid (tablet : Tablet) : Bool := tablet.isInitialized && tablet.descriptor.isValid

/-- Tablets are the same when their descriptors are, whoever pays for the lists. -/
def same (a b : Tablet) : Bool :=
  a.descriptor = b.descriptor && a.isInitialized = b.isInitialized

def held (tablet : Tablet) : Held DescriptorBody :=
  ⟨tablet.descriptor.toDescriptorBody, tablet.arena?⟩

def recordSize (tablet : Tablet) : Nat := tablet.descriptor.recordSize

def reset (tablet : Tablet) : Charging Tablet := do
  Charging.drop DescriptorBody.format tablet.held
  return uninitialized

instance : Text.Printable Tablet :=
  ⟨fun tablet => tablet.descriptor.markedTree tablet.isInitialized⟩

def json (tablet : Tablet) : String := Text.json tablet.descriptor

end Tablet

end TabletRecords
