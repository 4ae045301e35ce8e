import Mathlib.Data.List.Forall2
import TabletRecords.Proofs.Parameter.Canonical
import TabletRecords.Proofs.Tablet.Name
import TabletRecords.Proofs.Tablet.RoundTrip

/-!
Series of records. Tablets and transfer parameters that are written one after another, each from
where the one before ends, are read back in the same order and at the same positions, and the names
of each tablet where its record starts. Around the series the buffer stays as it is.
-/
namespace TabletRecords.Series

open Arena (Account ArenaId Ledger total)
open Outcome

inductive Item where
  | tablet (tablet : Tablet)
  | parameter (parameter : TransferParameter)

/-- What a reader expects: a tablet, or a parameter that has some settings. -/
inductive Kind where
  | tablet
  | parameter (settings : Settings)

namespace Item

def kind : Item → Kind
  | tablet _ => .tablet
  | parameter p => .parameter p.settings

def object : Item → Session.Object
  | tablet t => .tablet t
  | parameter p => .parameter p

def same : Item → Item → Bool
  | tablet a, tablet b => a.same b
  | parameter a, parameter b => a.same b
  | _, _ => false

/-- The memory that the lists of a tablet take. Those of a parameter are in an arena of its own. -/
def memory : Item → Nat
  | tablet t =>
      16 * t.descriptor.autoincrement.intervals.length +
        8 * t.descriptor.binding.hiddenTabletIds.length
  | parameter _ => 0

def recordSize : Item → Nat
  | tablet t => t.recordSize
  | parameter p => p.snapshot.recordSize

/-- Write an item, a tablet under the default settings and a parameter under its own. -/
def write (item : Item) (buffer : List UInt8) (position : Nat) : Except Fault (List UInt8 × Nat) :=
  match item with
  | tablet t => t.write {} buffer position
  | parameter p => p.write buffer position

end Item

def Kind.read (kind : Kind) (arena : ArenaId) (buffer : List UInt8) (position : Nat) :
    Charging (Item × Nat) :=
  match kind with
  | tablet => do
      let (t, stop) ← Tablet.uninitialized.read {} arena buffer position
      return (.tablet t, stop)
  | parameter settings => do
      let blank ← TransferParameter.blank settings
      let (p, stop) ← blank.read buffer position
      return (.parameter p, stop)

def write : List Item → List UInt8 → Nat → Except Fault (List UInt8 × List Nat)
  | [], buffer, _ => .ok (buffer, [])
  | item :: items, buffer, position => do
    let (buffer, stop) ← item.write buffer position
    let (buffer, stops) ← write items buffer stop
    return (buffer, stop :: stops)

def read (arena : ArenaId) (buffer : List UInt8) : List Kind → Nat → Charging (List Item × List Nat)
  | [], _ => return ([], [])
  | kind :: kinds, position => do
    let (item, stop) ← kind.read arena buffer position
    let (items, stops) ← read arena buffer kinds stop
    return (item :: items, stop :: stops)

namespace Item

variable {item : Item} {buffer buffer' : List UInt8} {position stop : Nat}

/-- The record of an item is at a position of a buffer, and the item itself is fit to be read. -/
def Stands (buffer : List UInt8) (position : Nat) : Item → Prop
  | tablet t => ∃ descriptor payer, t = .initialized descriptor payer ∧ descriptor.Sound ∧
      Wire.Record.Stands DescriptorBody.format Descriptor.currentVersion ({} : Settings).recordLimit
        descriptor.toHeader descriptor.toDescriptorBody buffer position
  | parameter p => ∃ header, p.snapshot.Legal ∧ p.snapshot.isValid ∧
      Snapshot.format.footprint p.snapshot ≤ p.settings.arenaLimit ∧
      Wire.Record.Stands Snapshot.format Snapshot.currentVersion p.settings.recordLimit header
        p.snapshot buffer position

structure Writes (item : Item) (buffer : List UInt8) (position : Nat) (buffer' : List UInt8)
    (stop : Nat) : Prop where
  stands : item.Stands buffer' position
  stop_eq : stop = position + item.recordSize
  length : buffer'.length = buffer.length
  outside : ∀ i, i < position ∨ stop ≤ i → buffer'[i]? = buffer[i]?

theorem writes_of_write (reachable : item.object.Reachable)
    (written : item.write buffer position = .ok (buffer', stop)) :
    item.Writes buffer position buffer' stop := by
  cases item with
  | tablet t =>
    replace written : t.write {} buffer position = .ok (buffer', stop) := written
    obtain ⟨descriptor, payer, rfl, sound, stands, moved⟩ := Tablet.stands_of_write reachable written
    obtain ⟨-, header, written⟩ := Tablet.write_eq_ok_iff.mp written
    obtain ⟨length, -, outside⟩ := Wire.Record.outside_of_write DescriptorBody.format_lawful written
    exact ⟨⟨descriptor, payer, rfl, sound, stands⟩, moved, length, outside⟩
  | parameter p =>
    replace written : p.write buffer position = .ok (buffer', stop) := written
    obtain ⟨session, sound, name, found⟩ := reachable.sound
    obtain ⟨⟨legal, valid⟩, stands, moved⟩ :=
      TransferParameter.stands_of_write (sound.find? found).valid written
    obtain ⟨-, header, written⟩ := TransferParameter.write_eq_ok_iff.mp written
    obtain ⟨length, -, outside⟩ := Wire.Record.outside_of_write Snapshot.format_lawful written
    exact ⟨⟨_, legal, valid, sound.footprint_le found, stands⟩, moved, length, outside⟩

theorem Stands.of_agree {other : List UInt8} (stands : item.Stands buffer position)
    (agree : ∀ i < position + item.recordSize, other[i]? = buffer[i]?) :
    item.Stands other position := by
  cases item with
  | tablet t =>
    obtain ⟨descriptor, payer, rfl, sound, stands⟩ := stands
    refine ⟨descriptor, payer, rfl, sound, stands.of_agree DescriptorBody.format_lawful ?_⟩
    rw [sound.size_toHeader]
    exact agree
  | parameter p =>
    obtain ⟨header, legal, valid, fits, stands⟩ := stands
    refine ⟨header, legal, valid, fits, stands.of_agree Snapshot.format_lawful ?_⟩
    rw [stands.size]
    exact agree

theorem Stands.read (stands : item.Stands buffer position) {arena : ArenaId} {ledger : Ledger}
    (opened : arena.index < ledger.next)
    (room : ledger.used arena + item.memory ≤ (ledger.account arena).limit) :
    ∃ copy after, item.kind.read arena buffer position ledger =
        .ok (copy, position + item.recordSize) after ∧
      copy.same item ∧ arena.index < after.next ∧
      after.account arena =
        { ledger.account arena with used := ledger.used arena + item.memory } := by
  cases item with
  | tablet t =>
    obtain ⟨descriptor, payer, rfl, sound, stands⟩ := stands
    have footprint : total (DescriptorBody.format.charges descriptor.toDescriptorBody) =
        memory (.tablet (.initialized descriptor payer)) := by
      rw [memory, Nat.mul_comm 16, Nat.mul_comm 8]
      exact DescriptorBody.footprint_eq _
    rw [← footprint] at room ⊢
    have taken := Tablet.read_eq_ok_iff.mpr ⟨rfl, _, _, _, stands,
      ⟨sound.legal, sound.isValid, Account.chargeAll_of_room room⟩, rfl, rfl, rfl⟩
    rw [sound.size_toHeader] at taken
    exact ⟨_, _, bind_eq_ok_iff.mpr ⟨_, _, taken, rfl⟩, Tablet.same_initialized_iff.mpr rfl, opened,
      Ledger.account_set_self _ _ _⟩
  | parameter p =>
    obtain ⟨header, legal, valid, fits, stands⟩ := stands
    have space : (TransferParameter.freshAccount p.settings).used +
        total (Snapshot.format.charges p.snapshot) ≤
          (TransferParameter.freshAccount p.settings).limit := by
      show 0 + Snapshot.format.footprint p.snapshot ≤ p.settings.arenaLimit
      rwa [Nat.zero_add]
    obtain ⟨_, after, fresh, taken, next, kept⟩ := TransferParameter.read_blank_of_stands stands legal
      valid (Account.chargeAll_of_room space) ledger
    rw [stands.size] at taken
    refine ⟨_, after, bind_eq_ok_iff.mpr ⟨_, _, fresh, bind_eq_ok_iff.mpr ⟨_, _, taken, rfl⟩⟩,
      decide_eq_true rfl, ?_, kept arena opened⟩
    rw [next]
    exact Nat.lt_succ_of_lt opened

end Item

variable {item : Item} {items : List Item} {buffer buffer' : List UInt8} {position : Nat}
  {stops : List Nat}

theorem write_cons_eq_ok_iff :
    write (item :: items) buffer position = .ok (buffer', stops) ↔
      ∃ middle stop, item.write buffer position = .ok (middle, stop) ∧
        ∃ rest, write items middle stop = .ok (buffer', rest) ∧ stops = stop :: rest := by
  simp only [write, except_bind_eq_ok_iff, Prod.exists]
  constructor
  · rintro ⟨middle, stop, first, _, rest, others, made⟩
    cases made
    exact ⟨middle, stop, first, rest, others, rfl⟩
  · rintro ⟨middle, stop, first, rest, others, rfl⟩
    exact ⟨middle, stop, first, buffer', rest, others, rfl⟩

theorem outside_of_write (reachable : ∀ item ∈ items, item.object.Reachable)
    (written : write items buffer position = .ok (buffer', stops)) :
    buffer'.length = buffer.length ∧ position ≤ stops.getLastD position ∧
      ∀ i, i < position ∨ stops.getLastD position ≤ i → buffer'[i]? = buffer[i]? := by
  induction items generalizing buffer position stops with
  | nil =>
    cases written
    exact ⟨rfl, Nat.le_refl _, fun _ _ => rfl⟩
  | cons item items ih =>
    rw [List.forall_mem_cons] at reachable
    obtain ⟨middle, stop, first, rest, others, rfl⟩ := write_cons_eq_ok_iff.mp written
    have one := Item.writes_of_write reachable.1 first
    obtain ⟨length, forward, outside⟩ := ih reachable.2 others
    have advances : position ≤ stop := one.stop_eq ▸ Nat.le_add_right _ _
    rw [List.getLastD_cons]
    refine ⟨length.trans one.length, Nat.le_trans advances forward, fun i around => ?_⟩
    rw [outside i (by omega), one.outside i (by omega)]

/-- The records of items are in a buffer one after another, each from where the one before ends. -/
def Standing (buffer : List UInt8) : List Item → Nat → List Nat → Prop
  | [], _, stops => stops = []
  | item :: items, position, stops =>
    item.Stands buffer position ∧ ∃ rest, Standing buffer items (position + item.recordSize) rest ∧
      stops = (position + item.recordSize) :: rest

theorem standing_of_write (reachable : ∀ item ∈ items, item.object.Reachable)
    (written : write items buffer position = .ok (buffer', stops)) :
    Standing buffer' items position stops := by
  induction items generalizing buffer position stops with
  | nil =>
    cases written
    rfl
  | cons item items ih =>
    rw [List.forall_mem_cons] at reachable
    obtain ⟨middle, stop, first, rest, others, rfl⟩ := write_cons_eq_ok_iff.mp written
    have one := Item.writes_of_write reachable.1 first
    obtain ⟨-, -, outside⟩ := outside_of_write reachable.2 others
    have standing := ih reachable.2 others
    rw [one.stop_eq] at outside standing ⊢
    -- The later writes start where this record ends, so none of them touches it.
    exact ⟨one.stands.of_agree fun i earlier => outside i (.inl earlier), rest, standing, rfl⟩

theorem Standing.read {arena : ArenaId} {ledger : Ledger}
    (standing : Standing buffer items position stops) (opened : arena.index < ledger.next)
    (room : ledger.used arena + total (items.map Item.memory) ≤ (ledger.account arena).limit) :
    ∃ copies after,
      Series.read arena buffer (items.map Item.kind) position ledger = .ok (copies, stops) after ∧
        List.Forall₂ (fun copy item => copy.same item) copies items := by
  induction items generalizing position stops ledger with
  | nil =>
    cases standing
    exact ⟨[], ledger, rfl, .nil⟩
  | cons item items ih =>
    obtain ⟨stands, rest, standing, rfl⟩ := standing
    replace room : ledger.used arena + (item.memory + total (items.map Item.memory)) ≤
      (ledger.account arena).limit := room
    rw [← Nat.add_assoc] at room
    obtain ⟨copy, middle, taken, same, opened', account⟩ :=
      stands.read opened (Nat.le_trans (Nat.le_add_right _ _) room)
    -- What the first item takes of the arena is not there for the items after it.
    have room' : middle.used arena + total (items.map Item.memory) ≤
        (middle.account arena).limit := by
      rw [Ledger.used, account]
      exact room
    obtain ⟨copies, after, others, sames⟩ := ih standing opened' room'
    exact ⟨copy :: copies, after, bind_eq_ok_iff.mpr ⟨_, _, taken, bind_eq_ok_iff.mpr
      ⟨_, _, others, rfl⟩⟩, .cons same sames⟩

theorem Standing.readName {before after : List Item} {t : Tablet}
    (standing : Standing buffer (before ++ .tablet t :: after) position stops) :
    ∃ start, (position :: stops)[before.length]? = some start ∧
      Tablet.readName buffer start =
        .ok (t.descriptor.name, start + Wire.headerSize + Tablet.namesSize) := by
  induction before generalizing position stops with
  | nil =>
    obtain ⟨⟨descriptor, payer, rfl, sound, stands⟩, -⟩ := standing
    exact ⟨position, rfl, Tablet.readName_of_stands stands⟩
  | cons item before ih =>
    obtain ⟨-, rest, standing, rfl⟩ := standing
    exact ih standing

/-- A written series is read back. The buffer stays as it is outside of the series, and readers of
the same kinds, with room for the lists of all tablets, get the same items at the same positions. -/
theorem reads_back_of_write (reachable : ∀ item ∈ items, item.object.Reachable)
    (written : write items buffer position = .ok (buffer', stops)) :
    (buffer'.length = buffer.length ∧
      ∀ i, i < position ∨ stops.getLastD position ≤ i → buffer'[i]? = buffer[i]?) ∧
    (∀ (arena : ArenaId) (ledger : Ledger), arena.index < ledger.next →
      ledger.used arena + total (items.map Item.memory) ≤ (ledger.account arena).limit →
      ∃ copies after,
        read arena buffer' (items.map Item.kind) position ledger = .ok (copies, stops) after ∧
          List.Forall₂ (fun copy item => copy.same item) copies items) ∧
    ∀ before t after, items = before ++ .tablet t :: after →
      ∃ start, (position :: stops)[before.length]? = some start ∧
        Tablet.readName buffer' start =
          .ok (t.descriptor.name, start + Wire.headerSize + Tablet.namesSize) := by
  obtain ⟨length, -, outside⟩ := outside_of_write reachable written
  have standing := standing_of_write reachable written
  refine ⟨⟨length, outside⟩, fun _ _ opened room => standing.read opened room, ?_⟩
  rintro before t after rfl
  exact standing.readName

def mixture : List Item :=
  [.tablet Tablet.successor, .parameter TransferParameter.sentSuccessor, .tablet Tablet.successor]

theorem reachable_mixture : ∀ item ∈ mixture, item.object.Reachable := by
  simp only [mixture, List.forall_mem_cons]
  exact ⟨Tablet.reachable_successor, TransferParameter.reachable_sentSuccessor,
    Tablet.reachable_successor, List.forall_mem_nil _⟩

theorem reads_back_of_write_mixture :
    (∀ item ∈ mixture, item.object.Reachable) ∧
      ∃ buffer, write mixture (List.replicate 900 0) 2 = .ok (buffer, [254, 616, 868]) ∧
        (∃ copies after,
          read ⟨0⟩ buffer (mixture.map Item.kind) 2 ⟨fun _ => { label := "", limit := 48 }, 1⟩ =
            .ok (copies, [254, 616, 868]) after ∧
          List.Forall₂ (fun copy item => copy.same item) copies mixture) ∧
        Tablet.readName buffer 616 = .ok (Tablet.successor.descriptor.name, 640) := by
  have written : ∃ buffer, write mixture (List.replicate 900 0) 2 =
      .ok (buffer, [254, 616, 868]) := by
    generalize made : List.replicate 900 (0 : UInt8) = zero
    have length : zero.length = 900 := made ▸ List.length_replicate
    obtain ⟨one, first⟩ := Tablet.write_successor (by omega : 2 + 252 ≤ zero.length)
    replace first : (Item.tablet Tablet.successor).write zero 2 = .ok (one, 2 + 252) := first
    have length₁ := (Item.writes_of_write (reachable_mixture _ (.head _)) first).length
    obtain ⟨two, second⟩ :=
      TransferParameter.write_sentSuccessor (by omega : 254 + 362 ≤ one.length)
    replace second : (Item.parameter TransferParameter.sentSuccessor).write one 254 =
        .ok (two, 254 + 362) := second
    have length₂ := (Item.writes_of_write (reachable_mixture _ (.tail _ (.head _))) second).length
    obtain ⟨three, third⟩ := Tablet.write_successor (by omega : 616 + 252 ≤ two.length)
    exact ⟨three, write_cons_eq_ok_iff.mpr ⟨one, _, first, _, write_cons_eq_ok_iff.mpr
      ⟨two, _, second, _, write_cons_eq_ok_iff.mpr ⟨three, _, third, _, rfl, rfl⟩, rfl⟩, rfl⟩⟩
  obtain ⟨buffer, written⟩ := written
  obtain ⟨-, reads, names⟩ := reads_back_of_write reachable_mixture written
  obtain ⟨start, found, name⟩ :=
    names [.tablet Tablet.successor, .parameter TransferParameter.sentSuccessor] _ [] rfl
  cases found
  exact ⟨reachable_mixture, buffer, written, reads _ _ (by decide) (by decide), name⟩

end TabletRecords.Series
