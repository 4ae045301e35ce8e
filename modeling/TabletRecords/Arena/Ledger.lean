import TabletRecords.Arena.Account

/-!
The ledger of all arenas. An arena is a number, and the ledger knows the account of each. Numbers
from `next` on belong to arenas that have not been opened.
-/
namespace TabletRecords.Arena

/-- An arena; two handles to one arena are equal. -/
structure ArenaId where
  index : Nat
deriving DecidableEq

structure Ledger where
  account : ArenaId → Account
  next : Nat

namespace Ledger

def empty : Ledger where
  account _ := { label := "" }
  next := 0

def set (ledger : Ledger) (arena : ArenaId) (account : Account) : Ledger :=
  { ledger with account := fun other => if other = arena then account else ledger.account other }

def openArena (ledger : Ledger) (account : Account) : ArenaId × Ledger :=
  let arena : ArenaId := ⟨ledger.next⟩
  (arena, { ledger.set arena account with next := ledger.next + 1 })

def used (ledger : Ledger) (arena : ArenaId) : Nat := (ledger.account arena).used

def release (ledger : Ledger) (arena : ArenaId) (size : Nat) : Ledger :=
  ledger.set arena ((ledger.account arena).release size)

def releaseAll (ledger : Ledger) (charges : List (ArenaId × Nat)) : Ledger :=
  charges.foldl (fun ledger (arena, size) => ledger.release arena size) ledger

instance : Inhabited Ledger := ⟨empty⟩

@[simp] theorem account_set_self (ledger : Ledger) (arena : ArenaId) (account : Account) :
    (ledger.set arena account).account arena = account := by
  simp [set]

theorem account_set_of_ne (ledger : Ledger) {arena other : ArenaId} (account : Account)
    (h : other ≠ arena) : (ledger.set arena account).account other = ledger.account other := by
  simp [set, h]

@[simp] theorem account_openArena (ledger : Ledger) (account : Account) :
    (ledger.openArena account).2.account ⟨ledger.next⟩ = account :=
  account_set_self _ _ _

end Ledger

end TabletRecords.Arena
