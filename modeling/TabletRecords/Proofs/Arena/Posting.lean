import TabletRecords.Arena.Ledger
import TabletRecords.Proofs.Arena.Charges

/-!
Postings. An operation that holds some charges and lets others go moves the ledger by exactly these:
the bytes used of every arena change by the sums, limits stay, no arena passes its limit, and none
is overdrawn where what is let go had been held.
-/
namespace TabletRecords.Arena

/-- The bytes that some charges hold against one arena. -/
def heldAt (arena : ArenaId) : List (ArenaId × Nat) → Nat
  | [] => 0
  | (payer, size) :: charges => (if payer = arena then size else 0) + heldAt arena charges

@[simp] theorem heldAt_nil (arena : ArenaId) : heldAt arena [] = 0 := rfl

theorem heldAt_cons (arena : ArenaId) (charge : ArenaId × Nat) (charges : List (ArenaId × Nat)) :
    heldAt arena (charge :: charges) =
      (if charge.1 = arena then charge.2 else 0) + heldAt arena charges := rfl

@[simp] theorem heldAt_append (arena : ArenaId) (first second : List (ArenaId × Nat)) :
    heldAt arena (first ++ second) = heldAt arena first + heldAt arena second := by
  induction first with
  | nil => simp
  | cons charge charges ih =>
    rw [List.cons_append, heldAt_cons, heldAt_cons, ih, Nat.add_assoc]

theorem heldAt_map (arena payer : ArenaId) (sizes : List Nat) :
    heldAt arena (sizes.map (payer, ·)) = if payer = arena then total sizes else 0 := by
  induction sizes with
  | nil => simp
  | cons size sizes ih =>
    rw [List.map_cons, heldAt_cons, ih]
    split <;> rfl

theorem heldAt_eq_zero {arena : ArenaId} {charges : List (ArenaId × Nat)}
    (elsewhere : ∀ charge ∈ charges, charge.1 ≠ arena) : heldAt arena charges = 0 := by
  induction charges with
  | nil => rfl
  | cons charge charges ih =>
    rw [heldAt_cons, if_neg (elsewhere charge List.mem_cons_self),
      ih (fun other mem => elsewhere other (List.mem_cons_of_mem charge mem))]

attribute [ext] Ledger

namespace Ledger

@[simp] theorem set_account_self (ledger : Ledger) (arena : ArenaId) :
    ledger.set arena (ledger.account arena) = ledger := by
  unfold set
  congr 1
  funext other
  split
  · next h => rw [h]
  · rfl

@[simp] theorem set_set (ledger : Ledger) (arena : ArenaId) (first second : Account) :
    (ledger.set arena first).set arena second = ledger.set arena second := by
  unfold set
  congr 1
  funext other
  by_cases h : other = arena <;> simp [h]

theorem releaseAll_cons (ledger : Ledger) (charge : ArenaId × Nat)
    (charges : List (ArenaId × Nat)) :
    ledger.releaseAll (charge :: charges) =
      (ledger.release charge.1 charge.2).releaseAll charges := rfl

theorem account_releaseAll (ledger : Ledger) (charges : List (ArenaId × Nat)) (arena : ArenaId) :
    (ledger.releaseAll charges).account arena =
      (ledger.account arena).release (heldAt arena charges) := by
  induction charges generalizing ledger with
  | nil => simp [releaseAll, Account.release]
  | cons charge charges ih =>
    rw [releaseAll_cons, ih, heldAt_cons]
    by_cases h : charge.1 = arena
    · rw [← h, release, account_set_self, Account.release_release, if_pos rfl]
    · rw [release, account_set_of_ne _ _ (Ne.symm h), if_neg h, Nat.zero_add]

@[simp] theorem next_releaseAll (ledger : Ledger) (charges : List (ArenaId × Nat)) :
    (ledger.releaseAll charges).next = ledger.next := by
  induction charges generalizing ledger with
  | nil => rfl
  | cons charge charges ih => rw [releaseAll_cons, ih, release, set]

theorem account_set_releaseAll (ledger : Ledger) (arena : ArenaId) (account : Account)
    (sizes : List Nat) :
    ((ledger.set arena account).releaseAll (sizes.map (arena, ·))).account arena =
      account.release (total sizes) := by
  rw [account_releaseAll, account_set_self, heldAt_map, if_pos rfl]

theorem account_set_releaseAll_of_ne (ledger : Ledger) {arena other : ArenaId} (account : Account)
    (sizes : List Nat) (different : other ≠ arena) :
    ((ledger.set arena account).releaseAll (sizes.map (arena, ·))).account other =
      ledger.account other := by
  rw [account_releaseAll, account_set_of_ne _ _ different, heldAt_map, if_neg (Ne.symm different)]
  simp [Account.release]

theorem releaseAll_of_chargeAll {ledger : Ledger} {arena : ArenaId} {account : Account}
    {sizes : List Nat} (charged : (ledger.account arena).chargeAll sizes = .ok account) :
    (ledger.set arena account).releaseAll (sizes.map (arena, ·)) = ledger := by
  apply Ledger.ext
  · funext other
    by_cases same : other = arena
    · rw [same, account_set_releaseAll, Account.release_of_chargeAll charged]
    · rw [account_set_releaseAll_of_ne _ _ _ same]
  · rw [next_releaseAll, set]

/-- Nothing is held against an arena that has not been opened. -/
def Fresh (ledger : Ledger) : Prop :=
  ∀ arena : ArenaId, ledger.next ≤ arena.index → ledger.used arena = 0

/-- Arenas that have been opened stay open, under the same limits. -/
structure Continues (before after : Ledger) : Prop where
  next_le : before.next ≤ after.next
  limit : ∀ arena, arena.index < before.next →
    (after.account arena).limit = (before.account arena).limit

theorem Continues.refl (ledger : Ledger) : ledger.Continues ledger :=
  ⟨Nat.le_refl _, fun _ _ => rfl⟩

theorem Continues.trans {before middle after : Ledger} (first : before.Continues middle)
    (second : middle.Continues after) : before.Continues after where
  next_le := Nat.le_trans first.next_le second.next_le
  limit arena opened :=
    (second.limit arena (Nat.lt_of_lt_of_le opened first.next_le)).trans (first.limit arena opened)

/-- The ledger has moved by some charges that are held now, and others that were let go. -/
structure Posting (before : Ledger) (charged released : List (ArenaId × Nat)) (after : Ledger) :
    Prop where
  used : ∀ arena, after.used arena =
    before.used arena + heldAt arena charged - heldAt arena released
  limit : ∀ arena, arena.index < before.next →
    (after.account arena).limit = (before.account arena).limit
  within : ∀ arena, before.used arena ≤ (before.account arena).limit →
    after.used arena ≤ (after.account arena).limit
  solvent : ∀ arena, (before.account arena).overdrawn = false →
    heldAt arena released ≤ before.used arena + heldAt arena charged →
      (after.account arena).overdrawn = false
  next_le : before.next ≤ after.next

namespace Posting

variable {before middle after : Ledger} {charged released : List (ArenaId × Nat)}

theorem continues (posting : before.Posting charged released after) : before.Continues after :=
  ⟨posting.next_le, posting.limit⟩

theorem refl (ledger : Ledger) (charges : List (ArenaId × Nat)) :
    ledger.Posting charges charges ledger where
  used arena := by rw [Nat.add_sub_cancel]
  limit _ _ := rfl
  within _ fits := fits
  solvent _ covered _ := covered
  next_le := Nat.le_refl _

theorem of_chargeAll {arena : ArenaId} {sizes : List Nat} {account : Account}
    (fits : (before.account arena).chargeAll sizes = .ok account) :
    before.Posting (sizes.map (arena, ·)) [] (before.set arena account) := by
  obtain ⟨room, rfl⟩ := Account.chargeAll_eq_ok_iff.mp fits
  constructor
  · intro other
    rw [heldAt_map, heldAt_nil, Nat.sub_zero, Ledger.used]
    by_cases h : other = arena
    · rw [h, account_set_self, if_pos rfl, Ledger.used]
    · rw [account_set_of_ne _ _ h, if_neg (Ne.symm h), Nat.add_zero, Ledger.used]
  · intro other _
    by_cases h : other = arena
    · rw [h, account_set_self]
    · rw [account_set_of_ne _ _ h]
  · intro other bounded
    rw [Ledger.used]
    by_cases h : other = arena
    · rw [h] at bounded ⊢
      rw [account_set_self]
      rcases room with rfl | room
      · exact bounded
      · exact room
    · rwa [account_set_of_ne _ _ h]
  · intro other covered _
    by_cases h : other = arena
    · rw [h] at covered ⊢
      rwa [account_set_self]
    · rwa [account_set_of_ne _ _ h]
  · exact Nat.le_refl _

theorem releaseAll (posting : before.Posting charged [] middle) (released : List (ArenaId × Nat)) :
    before.Posting charged released (middle.releaseAll released) where
  used arena := by
    show (((middle.releaseAll released).account arena)).used = _
    rw [account_releaseAll]
    show middle.used arena - _ = _
    rw [posting.used, heldAt_nil, Nat.sub_zero]
  limit arena opened := by
    rw [account_releaseAll]
    exact posting.limit arena opened
  within arena fits := by
    rw [Ledger.used, account_releaseAll]
    exact Nat.le_trans (Nat.sub_le _ _) (posting.within arena fits)
  solvent arena covered enough := by
    have held : heldAt arena released ≤ middle.used arena := by
      rw [posting.used, heldAt_nil, Nat.sub_zero]
      exact enough
    rw [account_releaseAll, Account.release, posting.solvent arena covered (Nat.zero_le _)]
    simpa [Ledger.used] using held
  next_le := by
    rw [next_releaseAll]
    exact posting.next_le

theorem frame {charged' released' : List (ArenaId × Nat)}
    (posting : before.Posting charged released after) (rest : ArenaId → Nat)
    (charged_eq : ∀ arena, heldAt arena charged' = rest arena + heldAt arena charged)
    (released_eq : ∀ arena, heldAt arena released' = rest arena + heldAt arena released) :
    before.Posting charged' released' after where
  used arena := by
    rw [posting.used, charged_eq, released_eq]
    omega
  limit := posting.limit
  within := posting.within
  solvent arena covered enough := by
    rw [charged_eq, released_eq] at enough
    exact posting.solvent arena covered (by omega)
  next_le := posting.next_le

theorem openArena {fresh account : Account} {sizes : List Nat} (unopened : before.Fresh)
    (unused : fresh.used = 0) (covered : fresh.overdrawn = false)
    (fits : fresh.chargeAll sizes = .ok account) :
    before.Posting (sizes.map (⟨before.next⟩, ·)) [] (before.openArena account).2 := by
  obtain ⟨room, rfl⟩ := Account.chargeAll_eq_ok_iff.mp fits
  have used_next : before.used ⟨before.next⟩ = 0 := unopened _ (Nat.le_refl _)
  constructor
  · intro arena
    rw [heldAt_map, heldAt_nil, Nat.sub_zero]
    show ((before.set _ _).account arena).used = _
    by_cases h : arena = ⟨before.next⟩
    · rw [h, account_set_self, if_pos rfl, used_next, unused]
    · rw [account_set_of_ne _ _ h, if_neg (Ne.symm h), Nat.add_zero, Ledger.used]
  · intro arena opened
    refine congrArg Account.limit (account_set_of_ne _ _ ?_)
    rintro rfl
    exact Nat.lt_irrefl _ opened
  · intro arena fits
    show ((before.set _ _).account arena).used ≤ ((before.set _ _).account arena).limit
    by_cases h : arena = ⟨before.next⟩
    · rw [h, account_set_self]
      rcases room with rfl | room
      · simp [unused]
      · exact room
    · rwa [account_set_of_ne _ _ h]
  · intro arena covered' _
    show ((before.set _ _).account arena).overdrawn = false
    by_cases h : arena = ⟨before.next⟩
    · rw [h, account_set_self]
      exact covered
    · rwa [account_set_of_ne _ _ h]
  · exact Nat.le_succ _

end Posting

end Ledger

end TabletRecords.Arena
