import TabletRecords.Arena.Ledger
import TabletRecords.Fault

/-!
Operations that charge arenas. An operation takes the ledger from one state to the next, and where
it fails it has given back what it charged. A value that replaces another one is charged before
the other one is let go.
-/
namespace TabletRecords

open Arena (ArenaId Account Ledger)

/-- An operation on the ledger that may fail. -/
abbrev Charging := EStateM Fault Ledger

/-- A value together with the arena that pays for its lists, if one does. -/
structure Held (α : Type) where
  value : α
  payer : Option ArenaId := none

def Held.charges {α : Type} (format : Wire.Format α) (held : Held α) : List (ArenaId × Nat) :=
  match held.payer with
  | none => []
  | some arena => (format.charges held.value).map (arena, ·)

namespace Charging

variable {α β : Type}

def refuse (cause : ArgumentFault) : Charging α := throw (.argument cause)

/-- Charge lists to an arena, one after another, and go on. Where the next list does not fit, or
what follows fails, the lists charged before are given back. -/
def holding (arena : ArenaId) : List Nat → Charging α → Charging α
  | [], next => next
  | size :: sizes, next => fun ledger =>
      match (ledger.account arena).charge size with
      | .error refusal => .error (.exhausted refusal) ledger
      | .ok account =>
          match holding arena sizes next (ledger.set arena account) with
          | .ok result ledger => .ok result ledger
          | .error fault ledger => .error fault (ledger.release arena size)

/-- Take in a value at the front of some bytes, and go on with it. Where the read fails, or what
follows it, all that the read has charged is given back. -/
def intake (read : Wire.Intake α) (arena : ArenaId) (bytes : List UInt8)
    (next : α → Charging β) : Charging β := fun ledger =>
  match read { cursor := .start bytes, account := ledger.account arena } with
  | .error error state => .error (.ofIntake error) (ledger.set arena state.undone)
  | .ok value state =>
      match next value (ledger.set arena state.account) with
      | .ok result ledger => .ok result ledger
      | .error fault ledger => .error fault (ledger.release arena state.charged)

def hold (format : Wire.Format α) (value : α) (arena : ArenaId) : Charging (Held α) :=
  holding arena (format.charges value) do return ⟨value, arena⟩

def receive (format : Wire.Format α) (bytes : List UInt8) (arena : ArenaId) :
    Charging (Held α) :=
  intake format.read arena bytes fun value => do return ⟨value, arena⟩

def drop (format : Wire.Format α) (held : Held α) : Charging Unit :=
  modify (·.releaseAll (held.charges format))

def replace (format : Wire.Format α) (old : Held α) (value : α) (arena : ArenaId) :
    Charging (Held α) :=
  holding arena (format.charges value) do
    drop format old
    return ⟨value, arena⟩

def readRecord (format : Wire.Format α) (version : Int32) (most : Nat) (arena : ArenaId)
    (buffer : List UInt8) (position : Nat) (next : Wire.Header → α → Charging β) :
    Charging β :=
  match Wire.Record.read version most buffer position with
  | .error error => throw (.malformed error)
  | .ok (header, body) => intake (Wire.Record.body format) arena body (next header)

end Charging

end TabletRecords
