import TabletRecords.Charging

/-!
Setting the hidden tablets of a binding.
-/
namespace TabletRecords.Binding

open Arena (ArenaId)

def withHidden (binding : Binding) (ids : List TabletId) : Except Fault Binding :=
  match ids.find? (!·.isValid) with
  | some id => .error (.argument (.hiddenTablet id))
  | none => .ok { binding with hiddenTabletIds := ids }

/-- Set the hidden tablets; an arena pays for the new list, and the old one is let go. -/
def setHidden (binding : Held Binding) (ids : List TabletId) (arena : ArenaId) :
    Charging (Held Binding) := do
  let changed ← MonadExcept.ofExcept (binding.value.withHidden ids)
  Charging.replace format binding changed arena

end TabletRecords.Binding
