import TabletRecords.Identifier

/-!
Bindings: the tablets that a tablet is linked to by schema changes, among them the hidden tablets
that a change is building.
-/
namespace TabletRecords

structure Binding where
  /-- Whether a finished change has swapped in the hidden tablets. -/
  redefined : Bool := false
  snapshotVersion : Int64 := 0
  schemaVersion : Int64 := 0
  dataTabletId : TabletId := .invalid
  lobMetaTabletId : TabletId := .invalid
  lobPieceTabletId : TabletId := .invalid
  hiddenTabletIds : List TabletId := []
deriving DecidableEq

namespace Binding

def format : Wire.Format Binding :=
  (Wire.Format.bool.pair <| Wire.Format.int64.pair <| Wire.Format.int64.pair <|
    TabletId.format.pair <| TabletId.format.pair <| TabletId.format.pair <|
    TabletId.format.counted 8 8).map
    (fun (redefined, snapshotVersion, schemaVersion, dataTabletId, lobMetaTabletId,
        lobPieceTabletId, hiddenTabletIds) =>
      { redefined, snapshotVersion, schemaVersion, dataTabletId, lobMetaTabletId,
        lobPieceTabletId, hiddenTabletIds })
    (fun binding =>
      (binding.redefined, binding.snapshotVersion, binding.schemaVersion, binding.dataTabletId,
        binding.lobMetaTabletId, binding.lobPieceTabletId, binding.hiddenTabletIds))

instance : Inhabited Binding := ⟨{}⟩

instance : Text.Printable Binding :=
  ⟨fun binding => .record "TabletBindingInfo"
    [("redefined", Text.tree binding.redefined),
     ("snapshot_version", Text.tree binding.snapshotVersion),
     ("schema_version", Text.tree binding.schemaVersion),
     ("data_tablet_id", Text.tree binding.dataTabletId),
     ("lob_meta_tablet_id", Text.tree binding.lobMetaTabletId),
     ("lob_piece_tablet_id", Text.tree binding.lobPieceTabletId),
     ("hidden_tablet_ids", Text.tree binding.hiddenTabletIds)]⟩

end Binding

end TabletRecords
