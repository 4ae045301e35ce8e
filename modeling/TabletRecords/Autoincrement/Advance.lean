import TabletRecords.Charging

/-!
Building and advancing auto-increment sequences. The value of a column never moves back.
-/
namespace TabletRecords.Autoincrement.Sequence

open Arena (ArenaId)

def ofIntervals (intervals : List Interval) (arena : ArenaId) : Charging (Held Sequence) :=
  let sequence : Sequence := ⟨intervals⟩
  Charging.holding arena (format.charges sequence) do
    unless sequence.isValid do Charging.refuse (.duplicateColumn intervals)
    return ⟨sequence, arena⟩

def setNext (intervals : List Interval) (columnId nextValue : UInt64) : List Interval :=
  intervals.map fun interval =>
    if interval.columnId = columnId then ⟨columnId, nextValue⟩ else interval

/-- The sequence in which a column hands out the given value next. A new column comes last. -/
def advance (sequence : Sequence) (columnId nextValue : UInt64) : Except Fault Sequence :=
  match sequence.next? columnId with
  | none => .ok ⟨sequence.intervals ++ [⟨columnId, nextValue⟩]⟩
  | some current =>
      if nextValue < current then
        .error (.invariant (.autoincrementBack columnId current nextValue))
      else .ok ⟨setNext sequence.intervals columnId nextValue⟩

def withNext (sequence : Sequence) (columnId nextValue : UInt64) (arena : ArenaId) :
    Charging (Held Sequence) := do
  let advanced ← MonadExcept.ofExcept (sequence.advance columnId nextValue)
  Charging.hold format advanced arena

end TabletRecords.Autoincrement.Sequence
