import TabletRecords.Tablet.Init

/-!
Changing tablets: a later snapshot of the same tablet, and a corrected time of creation.
-/
namespace TabletRecords.Tablet

/-- Apply a later snapshot of the tablet. What the snapshot leaves out stays as it is, and the new
lists are charged to the tablet's arena before the old ones are let go. -/
def update (tablet : Tablet) (snapshot : Snapshot) : Charging Tablet :=
  match tablet with
  | uninitialized => throw .notInitialized
  | initialized old arena =>
    if !snapshot.isValid then Charging.refuse .snapshot
    else if old.name ≠ snapshot.name then
      Charging.refuse (.updateName snapshot.name old.name)
    else
      let body := old.toDescriptorBody.receive snapshot
      Charging.holding arena (DescriptorBody.format.charges body) do
        unless body.isValid do
          throw (.invariant (.updated { old with toDescriptorBody := body }))
        let descriptor ←
          MonadExcept.ofExcept ((Descriptor.ofBody old.version body).mapError .malformed)
        Charging.drop DescriptorBody.format tablet.held
        return initialized descriptor arena

def updateCreateScn (tablet : Tablet) (createScn : Scn) : Except Fault Tablet :=
  match tablet with
  | uninitialized => .error .notInitialized
  | initialized old arena =>
    if !createScn.isValid then .error (.argument (.createScn createScn))
    else if !createdBeforeStart createScn old.startScn then
      .error (.invariant (.createdAfterStart createScn old.startScn))
    else .ok (initialized { old with createScn } arena)

end TabletRecords.Tablet
