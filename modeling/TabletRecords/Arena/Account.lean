import TabletRecords.Text.Tree

/-!
Byte accounts. An account hands out no memory: it adds up the bytes of the lists that are held
against it and refuses to pass its limit.
-/
namespace TabletRecords.Arena

def unlimited : Nat := UInt64.size - 1

structure Account where
  label : String
  limit : Nat := unlimited
  used : Nat := 0
  /-- Whether more bytes have ever been given back than were held. -/
  overdrawn : Bool := false
deriving DecidableEq

structure Exhausted where
  label : String
  requested : Nat
  used : Nat
  limit : Nat
deriving DecidableEq

def Exhausted.message (refusal : Exhausted) : String :=
  s!"arena {refusal.label} exhausted: requested {refusal.requested} bytes"
    ++ s!" with {refusal.used} of {refusal.limit} bytes in use"

namespace Account

def charge (account : Account) (size : Nat) : Except Exhausted Account :=
  if account.used + size ≤ account.limit then .ok { account with used := account.used + size }
  else .error ⟨account.label, size, account.used, account.limit⟩

def chargeAll (account : Account) (sizes : List Nat) : Except Exhausted Account :=
  sizes.foldlM charge account

/-- Give bytes back. An account that does not hold as many is overdrawn from then on. -/
def release (account : Account) (size : Nat) : Account :=
  { account with
    used := account.used - size
    overdrawn := account.overdrawn || account.used < size }

theorem charge_eq_ok_iff {account after : Account} {size : Nat} :
    account.charge size = .ok after ↔
      account.used + size ≤ account.limit ∧ after = { account with used := account.used + size } := by
  unfold charge
  split
  · next h => simp [h, eq_comm]
  · next h => simp [h]

theorem charge_eq_error_iff {account : Account} {size : Nat} {refusal : Exhausted} :
    account.charge size = .error refusal ↔
      account.limit < account.used + size ∧
        refusal = ⟨account.label, size, account.used, account.limit⟩ := by
  unfold charge
  split
  · next h => simp [Nat.not_lt.mpr h]
  · next h => simp [Nat.not_le.mp h, eq_comm]

theorem release_of_charge {account after : Account} {size : Nat}
    (h : account.charge size = .ok after) : after.release size = account := by
  obtain ⟨-, rfl⟩ := charge_eq_ok_iff.mp h
  have covered : ¬ account.used + size < size := Nat.not_lt.mpr (Nat.le_add_left _ _)
  simp [release, covered]

instance : Text.Printable Account :=
  ⟨fun account => .record "ArenaAllocator"
    [("label", Text.tree account.label), ("used", Text.tree account.used),
     ("limit", Text.tree account.limit)]⟩

end Account

def total (sizes : List Nat) : Nat := sizes.foldr (fun size rest => size + rest) 0

/-- The charges of a list of `count` elements of `size` bytes each. A list without elements has
none, so it fits every arena. -/
def listCharges (count size : Nat) : List Nat :=
  if count = 0 then [] else [count * size]

@[simp] theorem total_nil : total [] = 0 := rfl

@[simp] theorem total_cons (size : Nat) (sizes : List Nat) :
    total (size :: sizes) = size + total sizes := rfl

@[simp] theorem total_append (first second : List Nat) :
    total (first ++ second) = total first + total second := by
  induction first with
  | nil => simp
  | cons size sizes ih => simp [ih, Nat.add_assoc]

@[simp] theorem total_listCharges (count size : Nat) :
    total (listCharges count size) = count * size := by
  by_cases h : count = 0 <;> simp [listCharges, h]

end TabletRecords.Arena
