import TabletRecords.Identifier

/-!
Transaction state: the last transaction that touched a tablet, and where in its life it has taken
the tablet.
-/
namespace TabletRecords

/-- The life of a tablet, as transactions drive it. -/
inductive TabletStatus where
  | creating
  | normal
  | deleting
  | deleted
  | unknown
deriving DecidableEq

instance : Wire.Tagged TabletStatus where
  family := "tablet status"
  members := [.creating, .normal, .deleting, .deleted, .unknown]
  label
    | .creating => "Creating"
    | .normal => "Normal"
    | .deleting => "Deleting"
    | .deleted => "Deleted"
    | .unknown => "Max"
  mem_members value := by cases value <;> decide
  nodup := by decide
  length_le := by decide

structure TransactionState where
  /-- The transaction in flight, or zero. -/
  transactionId : Int64 := 0
  scn : Scn := .invalid
  status : TabletStatus := .unknown
deriving DecidableEq

namespace TransactionState

def isInTransaction (state : TransactionState) : Bool := 0 < state.transactionId

def format : Wire.Format TransactionState :=
  (Wire.Format.int64.pair <| Scn.format.pair <| Wire.Format.tagged TabletStatus).map
    (fun (transactionId, scn, status) => { transactionId, scn, status })
    (fun state => (state.transactionId, state.scn, state.status))

instance : Inhabited TransactionState := ⟨{}⟩

instance : Text.Printable TransactionState :=
  ⟨fun state => .record "TabletTxData"
    [("tx_id", Text.tree state.transactionId), ("tx_scn", Text.tree state.scn),
     ("tablet_status", Text.tree state.status)]⟩

end TransactionState

end TabletRecords
