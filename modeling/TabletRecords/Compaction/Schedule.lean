import TabletRecords.Charging

/-!
Scheduling compactions. A compaction joins a queue only behind all that are pending and finished.
-/
namespace TabletRecords.CompactionQueue

open Arena (ArenaId)

def push (queue : CompactionQueue) (compaction : Compaction) : Except Fault CompactionQueue :=
  if compaction.snapshot ≤ queue.floor then
    .error (.invariant (.compactionOrder compaction.snapshot queue.floor))
  else .ok { queue with pending := queue.pending ++ [compaction] }

/-- Schedule a compaction; an arena pays for the longer queue, and the shorter one is let go. -/
def schedule (queue : Held CompactionQueue) (compaction : Compaction) (arena : ArenaId) :
    Charging (Held CompactionQueue) := do
  let longer ← MonadExcept.ofExcept (queue.value.push compaction)
  Charging.replace format queue longer arena

end TabletRecords.CompactionQueue
