import TabletRecords.Arena.Account
import TabletRecords.Wire.Cursor

/-!
Reading values that own lists. Next to the cursor, an account pays for every list as soon as the
list is read, so a read fails either on its bytes or on the memory that they ask for. The bytes
charged by a read are counted, for they are given back where it fails.
-/
namespace TabletRecords.Wire

open Arena (Account Exhausted)

inductive IntakeError where
  | wire (error : Error)
  | arena (refusal : Exhausted)

def IntakeError.message : IntakeError → String
  | wire error => error.message
  | arena refusal => refusal.message

/-- A place in a buffer, and the account that pays for what is read there. -/
structure IntakeState where
  cursor : Cursor
  account : Account
  charged : Nat := 0

/-- A read that may charge lists to an account. -/
abbrev Intake := EStateM IntakeError IntakeState

/-- The account once all that a read has charged is given back. -/
def IntakeState.undone (state : IntakeState) : Account := state.account.release state.charged

namespace Intake

variable {α : Type}

def ofReader (read : Reader α) : Intake α := fun state =>
  match read state.cursor with
  | .ok value cursor => .ok value { state with cursor }
  | .error error cursor => .error (.wire error) { state with cursor }

def charge (size : Nat) : Intake Unit := fun state =>
  match state.account.charge size with
  | .ok account => .ok () { state with account, charged := state.charged + size }
  | .error refusal => .error (.arena refusal) state

def refuse (error : Error) : Intake α := throw (.wire error)

def replicate (read : Intake α) : Nat → Intake (List α)
  | 0 => return []
  | n + 1 => return (← read) :: (← replicate read n)

end Intake

end TabletRecords.Wire
