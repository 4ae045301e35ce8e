import TabletRecords.Proofs.Parameter.Operations
import TabletRecords.Proofs.Tablet.Operations
import TabletRecords.Session.Run

/-!
Sound sessions. The bytes used of each arena are those that the objects of the session hold there,
no arena passes its limit or has been overdrawn, and every object satisfies the invariant of its
kind.
-/
namespace TabletRecords

open Arena (ArenaId Ledger heldAt heldAt_append heldAt_nil)

namespace Session

namespace Object

def payer? : Object → Option ArenaId
  | arena id => some id
  | charge payer _ => some payer
  | words held => held.payer
  | autoincrement held => held.payer
  | binding held => held.payer
  | schema held => held.payer
  | compactions held => held.payer
  | tablet t => t.arena?
  | parameter p => some p.arena
  | buffer _ => none

/-- The memory of an object's lists, each its length times the size of an element; and the bytes of
a charge, which has no list. -/
def memory : Object → Nat
  | arena _ => 0
  | charge _ size => size
  | words held => held.value.length * 8
  | autoincrement held => held.value.intervals.length * 16
  | binding held => held.value.hiddenTabletIds.length * 8
  | schema held => held.value.rowkeyColumns.length * 16 + held.value.columns.length * 16
  | compactions held => held.value.pending.length * 32
  | tablet t =>
      t.descriptor.autoincrement.intervals.length * 16 +
        t.descriptor.binding.hiddenTabletIds.length * 8
  | parameter p =>
      p.snapshot.autoincrement.intervals.length * 16 +
        p.snapshot.binding.hiddenTabletIds.length * 8 +
        p.snapshot.schema.rowkeyColumns.length * 16 + p.snapshot.schema.columns.length * 16 +
        p.snapshot.compactions.pending.length * 32
  | buffer _ => 0

def Valid : Object → Prop
  | autoincrement held => held.value.isValid
  | tablet t => t.Sound
  | parameter p => p.snapshot.autoincrement.isValid
  | _ => True

/-- An object is sound when its content is, its arena has been opened or it has no lists to pay for
and, if it is a parameter, it owns its arena. -/
structure Sound (object : Object) (ledger : Ledger) : Prop where
  valid : object.Valid
  opened : ∀ arena, object.payer? = some arena → arena.index < ledger.next
  unpaid : object.payer? = none → object.memory = 0
  owns : ∀ p, object = parameter p → p.Owns ledger

variable {object old : Object} {before after : Ledger} {charged released : List (ArenaId × Nat)}

theorem Sound.mono (sound : object.Sound before) (posting : before.Posting charged released after) :
    object.Sound after where
  valid := sound.valid
  opened arena h := Nat.lt_of_lt_of_le (sound.opened arena h) posting.next_le
  unpaid := sound.unpaid
  owns p h := (sound.owns p h).mono posting

theorem Sound.edit (sound : old.Sound before) (valid : object.Valid)
    (payer : object.payer? = old.payer?) (memory : object.memory = old.memory)
    (kind : ∀ p, object ≠ parameter p) : object.Sound before where
  valid := valid
  opened arena h := sound.opened arena (payer.symm.trans h)
  unpaid h := memory.trans (sound.unpaid (payer.symm.trans h))
  owns p h := absurd h (kind p)

/-- An object of another kind than a parameter, which an arena pays for. -/
structure PaidBy (object : Object) (arena : ArenaId) : Prop where
  valid : object.Valid
  payer : object.payer? = some arena
  kind : ∀ p, object ≠ parameter p

theorem PaidBy.sound {arena : ArenaId} (paid : object.PaidBy arena)
    (opened : arena.index < before.next) : object.Sound before where
  valid := paid.valid
  opened other h := by
    rw [paid.payer] at h
    cases h
    exact opened
  unpaid h := by
    rw [paid.payer] at h
    cases h
  owns p h := absurd h (paid.kind p)

theorem paidBy_tablet {t : Tablet} {arena : ArenaId} (sound : t.Sound)
    (payer : t.arena? = some arena) : (tablet t).PaidBy arena :=
  ⟨sound, payer, fun _ h => by cases h⟩

theorem sound_unpaid (valid : object.Valid) (unpaid : object.payer? = none)
    (empty : object.memory = 0) : object.Sound before where
  valid := valid
  opened arena h := by
    rw [unpaid] at h
    cases h
  unpaid _ := empty
  owns p h := by
    rw [h] at unpaid
    cases unpaid

theorem sound_parameter {p : TransferParameter} (valid : p.snapshot.autoincrement.isValid)
    (owns : p.Owns before) : (parameter p).Sound before where
  valid := valid
  opened arena h := by
    cases h
    exact owns.opened
  unpaid h := by cases h
  owns other h := by
    cases h
    exact owns

theorem Sound.isValid_autoincrement {sequence : Autoincrement.Sequence}
    (sound : object.Sound before) (has : object.autoincrement? = some sequence) :
    sequence.isValid := by
  have valid := sound.valid
  cases object with
  | autoincrement held =>
    cases has
    exact valid
  | tablet t =>
    cases has
    exact Tablet.Sound.autoincrement valid
  | parameter p =>
    cases has
    exact valid
  | _ => cases has

theorem payer?_of_mem_charges {charge : ArenaId × Nat} (mem : charge ∈ object.charges) :
    object.payer? = some charge.1 := by
  have held : ∀ {α : Type} {format : Wire.Format α} {held : Held α},
      charge ∈ held.charges format → held.payer = some charge.1 := by
    rintro α format ⟨value, _ | payer⟩ mem
    · cases mem
    · obtain ⟨size, -, rfl⟩ := List.mem_map.mp mem
      rfl
  cases object with
  | arena id => cases mem
  | charge payer size =>
    cases List.mem_singleton.mp mem
    rfl
  | words value => exact held mem
  | autoincrement sequence => exact held mem
  | binding binding => exact held mem
  | schema schema => exact held mem
  | compactions queue => exact held mem
  | tablet t =>
    have mem : charge ∈ t.held.charges DescriptorBody.format := mem
    exact held mem
  | parameter p =>
    have mem : charge ∈ p.held.charges Snapshot.format := mem
    exact held mem
  | buffer bytes => cases mem

theorem charges_eq_nil (unpaid : object.payer? = none) : object.charges = [] := by
  apply List.eq_nil_iff_forall_not_mem.mpr
  intro charge mem
  have paid := payer?_of_mem_charges mem
  rw [unpaid] at paid
  cases paid

end Object

variable {session : Session} {name : String} {object : Object}

def charges (session : Session) : List (ArenaId × Nat) :=
  session.objects.flatMap (·.2.charges)

def chargesOf (session : Session) (name : String) : List (ArenaId × Nat) :=
  match session.find? name with
  | none => []
  | some object => object.charges

theorem chargesOf_eq (found : session.find? name = some object) :
    session.chargesOf name = object.charges := by
  rw [chargesOf, found]

theorem letGo_eq (session : Session) (name : String) :
    session.letGo name =
      { session with ledger := session.ledger.releaseAll (session.chargesOf name) } := by
  unfold letGo chargesOf
  cases session.find? name with
  | none => rfl
  | some object => rfl

theorem continues_letGo (session : Session) (name : String) :
    session.ledger.Continues (session.letGo name).ledger := by
  rw [letGo_eq]
  exact ((Ledger.Posting.refl session.ledger []).releaseAll _).continues

theorem mem_of_find? (found : session.find? name = some object) :
    (name, object) ∈ session.objects := by
  obtain ⟨first, last, split, -⟩ := List.lookup_eq_some_iff.mp found
  rw [split]
  simp

theorem heldAt_entries (arena : ArenaId) (entries : List (String × Object))
    (nodup : (entries.map (·.1)).Nodup) (ledger : Ledger) :
    heldAt arena (entries.flatMap (·.2.charges)) =
      heldAt arena (Session.chargesOf ⟨ledger, entries⟩ name) +
        heldAt arena ((entries.filter (·.1 ≠ name)).flatMap (·.2.charges)) := by
  induction entries with
  | nil => rfl
  | cons entry entries ih =>
    obtain ⟨key, object⟩ := entry
    rw [List.map_cons, List.nodup_cons] at nodup
    rw [List.flatMap_cons, heldAt_append]
    -- Each name is there once: the entry is the one that is taken apart, or it stays with the others.
    by_cases same : key = name
    · have others : ∀ entry ∈ entries, decide (entry.1 ≠ name) = true := by
        intro entry mem
        rw [decide_eq_true_eq, ← same]
        intro h
        exact nodup.1 (List.mem_map.mpr ⟨entry, mem, h⟩)
      have found : Session.find? ⟨ledger, (key, object) :: entries⟩ name = some object := by
        rw [Session.find?, same, List.lookup_cons_self]
      rw [List.filter_cons_of_neg (by simpa using same), List.filter_eq_self.mpr others,
        chargesOf_eq found]
    · have found : Session.chargesOf ⟨ledger, (key, object) :: entries⟩ name =
          Session.chargesOf ⟨ledger, entries⟩ name := by
        have missed : (name == key) = false := beq_eq_false_iff_ne.mpr (Ne.symm same)
        rw [chargesOf, chargesOf, find?, find?, List.lookup_cons, missed]
      rw [List.filter_cons_of_pos (by simpa using same), List.flatMap_cons, heldAt_append, found,
        ih nodup.2]
      omega

theorem heldAt_charges (arena : ArenaId) (nodup : (session.objects.map (·.1)).Nodup)
    (name : String) :
    heldAt arena session.charges =
      heldAt arena (session.chargesOf name) + heldAt arena (session.erase name).charges :=
  heldAt_entries arena session.objects nodup session.ledger

theorem charges_insert (session : Session) (name : String) (object : Object) :
    (session.insert name object).charges = object.charges ++ (session.erase name).charges := rfl

/-- The invariant of sessions. -/
structure Sound (session : Session) : Prop where
  nodup : (session.objects.map (·.1)).Nodup
  balanced : ∀ arena, session.ledger.used arena = heldAt arena session.charges
  within : ∀ arena, session.ledger.used arena ≤ (session.ledger.account arena).limit
  solvent : ∀ arena, (session.ledger.account arena).overdrawn = false
  objects : ∀ entry ∈ session.objects, entry.2.Sound session.ledger

theorem sound_empty : Sound {} where
  nodup := List.nodup_nil
  balanced _ := rfl
  within _ := Nat.zero_le _
  solvent _ := rfl
  objects _ mem := by cases mem

namespace Sound

variable {after : Ledger}

theorem heldAt_chargesOf_le (sound : session.Sound) (name : String) (arena : ArenaId) :
    heldAt arena (session.chargesOf name) ≤ session.ledger.used arena := by
  rw [sound.balanced, heldAt_charges arena sound.nodup name]
  exact Nat.le_add_right _ _

theorem find? (sound : session.Sound) (found : session.find? name = some object) :
    object.Sound session.ledger :=
  sound.objects _ (mem_of_find? found)

theorem fresh (sound : session.Sound) : session.ledger.Fresh := by
  intro arena unopened
  rw [sound.balanced]
  apply Arena.heldAt_eq_zero
  rintro charge mem rfl
  obtain ⟨entry, mem, mem'⟩ := List.mem_flatMap.mp mem
  have opened := (sound.objects entry mem).opened _ (Object.payer?_of_mem_charges mem')
  omega

theorem erase (sound : session.Sound) (name : String)
    (posting : session.ledger.Posting [] (session.chargesOf name) after) :
    Sound ({ session with ledger := after }.erase name) where
  nodup := by
    refine List.Nodup.sublist ?_ sound.nodup
    exact List.filter_sublist.map _
  balanced arena := by
    have whole := heldAt_charges arena sound.nodup name
    show after.used arena = heldAt arena (session.erase name).charges
    rw [posting.used, sound.balanced, whole, heldAt_nil, Nat.add_zero, Nat.add_sub_cancel_left]
  within arena := posting.within arena (sound.within arena)
  solvent arena :=
    posting.solvent arena (sound.solvent arena) (sound.heldAt_chargesOf_le name arena)
  objects entry mem := by
    have mem := (List.mem_filter.mp mem).1
    exact (sound.objects entry mem).mono posting

theorem erase_letGo (sound : session.Sound) (name : String) :
    ((session.letGo name).erase name).Sound := by
  rw [letGo_eq]
  exact sound.erase name ((Ledger.Posting.refl session.ledger []).releaseAll _)

theorem insert (sound : session.Sound) (new : object.Sound after)
    (posting : session.ledger.Posting object.charges (session.chargesOf name) after) :
    Sound ({ session with ledger := after }.insert name object) where
  nodup := by
    show ((name, object) :: session.objects.filter _).map _ |>.Nodup
    rw [List.map_cons, List.nodup_cons]
    constructor
    · intro mem
      obtain ⟨entry, mem, same⟩ := List.mem_map.mp mem
      have other := (List.mem_filter.mp mem).2
      simp [same] at other
    · refine List.Nodup.sublist ?_ sound.nodup
      exact List.filter_sublist.map _
  balanced arena := by
    have whole := heldAt_charges arena sound.nodup name
    show after.used arena = heldAt arena (session.insert name object).charges
    rw [posting.used, sound.balanced, whole, charges_insert, heldAt_append]
    omega
  within arena := posting.within arena (sound.within arena)
  solvent arena :=
    posting.solvent arena (sound.solvent arena)
      (Nat.le_trans (sound.heldAt_chargesOf_le name arena) (Nat.le_add_right _ _))
  objects entry mem := by
    rcases List.mem_cons.mp mem with rfl | mem
    · exact new
    · exact (sound.objects entry (List.mem_filter.mp mem).1).mono posting

theorem store (sound : session.Sound) (new : object.Sound after)
    (posting : session.ledger.Posting object.charges [] after) (name : String) :
    Sound (({ session with ledger := after }.letGo name).insert name object) := by
  rw [letGo_eq]
  have letGo := (Ledger.Posting.refl after []).releaseAll (session.chargesOf name)
  exact sound.insert (new.mono letGo) (posting.releaseAll _)

end Sound

end Session

end TabletRecords
