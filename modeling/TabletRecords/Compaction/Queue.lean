import TabletRecords.Wire.Tagged

/-!
Compaction queues: the medium compactions of a tablet that are scheduled and not finished, by
ascending snapshot, and the last one that finished.
-/
namespace TabletRecords

inductive CompactionType where
  | medium
  | major
deriving DecidableEq

instance : Wire.Tagged CompactionType where
  family := "compaction type"
  members := [.medium, .major]
  label
    | .medium => "Medium"
    | .major => "Major"
  mem_members value := by cases value <;> decide
  nodup := by decide
  length_le := by decide

inductive MergeReason where
  | none
  | tenantMajor
  | userRequest
  | rebuild
deriving DecidableEq

instance : Wire.Tagged MergeReason where
  family := "merge reason"
  members := [.none, .tenantMajor, .userRequest, .rebuild]
  label
    | .none => "None"
    | .tenantMajor => "TenantMajor"
    | .userRequest => "UserRequest"
    | .rebuild => "Rebuild"
  mem_members value := by cases value <;> decide
  nodup := by decide
  length_le := by decide

structure Compaction where
  snapshot : Int64
  type : CompactionType
  reason : MergeReason
  clusterId : UInt64
  dataVersion : UInt64
deriving DecidableEq

namespace Compaction

def format : Wire.Format Compaction :=
  (Wire.Format.int64.pair <| (Wire.Format.tagged CompactionType).pair <|
    (Wire.Format.tagged MergeReason).pair <| Wire.Format.uint64.pair Wire.Format.uint64).map
    (fun (snapshot, type, reason, clusterId, dataVersion) =>
      { snapshot, type, reason, clusterId, dataVersion })
    (fun compaction =>
      (compaction.snapshot, compaction.type, compaction.reason, compaction.clusterId,
        compaction.dataVersion))

instance : Text.Printable Compaction :=
  ⟨fun compaction => .record "MediumCompactionInfo"
    [("medium_snapshot", Text.tree compaction.snapshot),
     ("compaction_type", Text.tree compaction.type),
     ("merge_reason", Text.tree compaction.reason),
     ("cluster_id", Text.tree compaction.clusterId),
     ("data_version", Text.tree compaction.dataVersion)]⟩

end Compaction

structure CompactionQueue where
  /-- Those not finished, the oldest first. -/
  pending : List Compaction := []
  lastType : CompactionType := .medium
  lastSnapshot : Int64 := 0
  awaitsCheck : Bool := false
deriving DecidableEq

namespace CompactionQueue

def ascendsFrom : Int64 → List Compaction → Bool
  | _, [] => true
  | floor, compaction :: rest =>
      floor < compaction.snapshot && ascendsFrom compaction.snapshot rest

/-- Snapshots ascend from the last finished one, which is not negative. -/
def isValid (queue : CompactionQueue) : Bool :=
  0 ≤ queue.lastSnapshot && ascendsFrom queue.lastSnapshot queue.pending

def next? (queue : CompactionQueue) : Option Int64 := queue.pending.head?.map (·.snapshot)

def floor (queue : CompactionQueue) : Int64 :=
  (queue.pending.getLast?.map (·.snapshot)).getD queue.lastSnapshot

instance : Inhabited CompactionQueue := ⟨{}⟩

instance : Text.Printable CompactionQueue :=
  ⟨fun queue => .record "MediumCompactionInfoList"
    [("infos", Text.tree queue.pending),
     ("last_compaction_type", Text.tree queue.lastType),
     ("last_medium_scn", Text.tree queue.lastSnapshot),
     ("wait_check_flag", Text.tree queue.awaitsCheck)]⟩

def format : Wire.Format CompactionQueue :=
  ((Wire.Format.tagged CompactionType).pair <| Wire.Format.int64.pair <| Wire.Format.bool.pair <|
    Compaction.format.counted 26 32).refine
    (fun (lastType, lastSnapshot, awaitsCheck, pending) =>
      let queue : CompactionQueue := { pending, lastType, lastSnapshot, awaitsCheck }
      if queue.isValid then .ok queue
      else .error (.corrupt (.broken .compactionOrder (Text.tree queue))))
    (fun queue => (queue.lastType, queue.lastSnapshot, queue.awaitsCheck, queue.pending))

end CompactionQueue

end TabletRecords
