import TabletRecords.Tablet.Basic

/-!
Tablets as records. A valid tablet is written, and an uninitialized one takes in a record, if the
record holds a valid descriptor. The names of a tablet can be read without the rest.
-/
namespace TabletRecords.Tablet

open Arena (ArenaId)

/-- Write the record of a tablet into a buffer, at a position. The answer is the changed buffer and
the position after the record. -/
def write (tablet : Tablet) (settings : Settings) (buffer : List UInt8) (position : Nat) :
    Except Fault (List UInt8 × Nat) :=
  if !tablet.isValid then .error (.argument .unwritableDescriptor)
  else
    match Wire.Record.write DescriptorBody.format Descriptor.currentVersion
        tablet.descriptor.toDescriptorBody settings.recordLimit buffer position with
    | .ok (_, written) => .ok written
    | .error error => .error (.malformed error)

def toRecord (tablet : Tablet) : Except Fault (List UInt8) := do
  let (buffer, _) ← tablet.write {} (List.replicate tablet.recordSize 0) 0
  return buffer

def read (tablet : Tablet) (settings : Settings) (arena : ArenaId) (buffer : List UInt8)
    (position : Nat) : Charging (Tablet × Nat) :=
  if tablet.isInitialized then throw .initializedTwice
  else
    Charging.readRecord DescriptorBody.format Descriptor.currentVersion settings.recordLimit arena
      buffer position fun header body => do
        let descriptor : Descriptor := { header with toDescriptorBody := body }
        unless body.isValid do
          throw (.malformed (.corrupt (.broken .descriptor (descriptor.markedTree true))))
        return (initialized descriptor arena, position + header.size)

def readName (buffer : List UInt8) (position : Nat) : Except Fault (TabletName × Nat) := do
  let settings : Settings := {}
  match Wire.Record.read Descriptor.currentVersion settings.recordLimit buffer position with
  | .error error => throw (.malformed error)
  | .ok (_, body) =>
      match DescriptorBody.namesFormat.read
          { cursor := .start body, account := { label := "" } } with
      | .error error _ => throw (.ofIntake error)
      | .ok (logStreamId, tabletId) state =>
          return (⟨logStreamId, tabletId⟩, position + Wire.headerSize + state.cursor.position)

end TabletRecords.Tablet
