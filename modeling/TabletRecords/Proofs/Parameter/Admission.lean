import TabletRecords.Proofs.Parameter.Assignment
import TabletRecords.Proofs.Wire.Refusal

/-!
Receiving within a limit. A parameter takes in the record of another one just where its arena has
room for the lists in the record next to all that it holds until then; else the arena refuses the
first list that is too much. A parameter that is reset before has to make room for the lists of
other objects alone.
-/
namespace TabletRecords

open Arena (Account ArenaId Ledger heldAt total)
open Outcome

theorem Charging.readRecord_of_refused {α β : Type} {format : Wire.Format α} {legal : α → Prop}
    (lawful : format.Lawful legal) (refuses : format.Refuses legal) {version : Int32}
    {most position : Nat} {arena : ArenaId} {header : Wire.Header} {value : α} {buffer : List UInt8}
    {next : Wire.Header → α → Charging β} {before : Ledger} {refusal : Arena.Exhausted}
    (stands : Wire.Record.Stands format version most header value buffer position)
    (hlegal : legal value)
    (refused : (before.account arena).chargeAll (format.charges value) = .error refusal) :
    readRecord format version most arena buffer position next before =
      .error (.exhausted refusal) before := by
  obtain ⟨state, failed⟩ := Wire.Record.body_eq_error refuses hlegal refused
  have undone := (Wire.Record.body_grows lawful failed).undone rfl
  simp only [readRecord, stands.read_eq_ok lawful, intake, failed, undone, Ledger.set_account_self]
  rfl

namespace TransferParameter

variable {sender receiver result : TransferParameter} {buffer buffer' : List UInt8}
  {start stop stop' : Nat} {before after : Ledger}

section Written

variable (autoincrement : sender.snapshot.autoincrement.isValid)
  (written : sender.write buffer start = .ok (buffer', stop))

include autoincrement written

theorem stands_of_write_within {most : Nat} (admitted : sender.snapshot.recordSize ≤ most) :
    Wire.Record.Stands Snapshot.format Snapshot.currentVersion most
      ⟨Snapshot.currentVersion, Int32.ofNat sender.snapshot.recordSize⟩ sender.snapshot buffer'
      start := by
  obtain ⟨-, stands, -⟩ := stands_of_write autoincrement written
  refine { stands with limit := ?_ }
  rw [stands.size]
  exact admitted

variable (admitted : sender.snapshot.recordSize ≤ receiver.settings.recordLimit)
  (within : before.used receiver.arena ≤ (before.account receiver.arena).limit)

include admitted within

theorem read_of_write_eq_ok_iff_room :
    receiver.read buffer' start before = .ok (result, stop') after ↔
      before.used receiver.arena + total sender.snapshot.listMemory ≤
        (before.account receiver.arena).limit ∧
      (result = { receiver with snapshot := sender.snapshot } ∧ stop' = stop) ∧
      after = receiver.exchange before (total sender.snapshot.listMemory) := by
  obtain ⟨⟨legal, valid⟩, sent, moved⟩ := stands_of_write autoincrement written
  have stands := stands_of_write_within autoincrement written admitted
  have stop_eq : stop = start + Wire.Header.size _ := moved.trans (congrArg _ sent.size.symm)
  rw [read_eq_ok_iff]
  constructor
  · rintro ⟨header, snapshot, account, stands', ⟨legal', -, fits⟩, made, moved', let_go⟩
    obtain ⟨same, same'⟩ := stands'.unique Snapshot.format_lawful stands legal' legal
    rw [same'] at fits made
    obtain ⟨room, charged⟩ := (Snapshot.chargeAll_charges_eq_ok_iff within).mp fits
    rw [charged] at let_go
    refine ⟨room, ⟨made, ?_⟩, let_go⟩
    rw [moved', same, stop_eq]
  · rintro ⟨room, ⟨made, moved'⟩, let_go⟩
    have fits := (Snapshot.chargeAll_charges_eq_ok_iff within).mpr ⟨room, rfl⟩
    exact ⟨_, _, _, stands, ⟨legal, valid, fits⟩, made, moved'.trans stop_eq, let_go⟩

theorem exists_read_of_write_iff :
    (∃ answer after, receiver.read buffer' start before = .ok answer after) ↔
      before.used receiver.arena + total sender.snapshot.listMemory ≤
        (before.account receiver.arena).limit := by
  constructor
  · rintro ⟨⟨result, stop'⟩, after, done⟩
    exact ((read_of_write_eq_ok_iff_room autoincrement written admitted within).mp done).1
  · intro room
    exact ⟨_, _, (read_of_write_eq_ok_iff_room autoincrement written admitted within).mpr
      ⟨room, ⟨rfl, rfl⟩, rfl⟩⟩

theorem read_of_write_eq_exhausted
    (full : (before.account receiver.arena).limit <
      before.used receiver.arena + total sender.snapshot.listMemory) :
    ∃ earlier size later, sender.snapshot.listMemory = earlier ++ size :: later ∧
      before.used receiver.arena + total earlier ≤ (before.account receiver.arena).limit ∧
      (before.account receiver.arena).limit < before.used receiver.arena + total earlier + size ∧
      receiver.read buffer' start before =
        .error (.exhausted ⟨(before.account receiver.arena).label, size,
          before.used receiver.arena + total earlier,
          (before.account receiver.arena).limit⟩) before := by
  obtain ⟨⟨legal, -⟩, -⟩ := stands_of_write autoincrement written
  have stands := stands_of_write_within autoincrement written admitted
  obtain ⟨earlier, size, later, split, room, beyond, refused⟩ :=
    Snapshot.chargeAll_charges_eq_error within full
  exact ⟨earlier, size, later, split, room, beyond, Charging.readRecord_of_refused
    Snapshot.format_lawful Snapshot.format_refuses stands legal refused⟩

end Written

end TransferParameter

namespace Session

variable {session : Session} {name : String} {sender receiver : TransferParameter}

theorem Sound.exists_reset (sound : session.Sound)
    (found : session.find? name = some (.parameter receiver)) :
    ∃ emptied, receiver.reset session.ledger = .ok { receiver with snapshot := {} } emptied ∧
      emptied.used receiver.arena = (session.erase name).memoryAt receiver.arena ∧
      emptied.used receiver.arena ≤ (emptied.account receiver.arena).limit ∧
      (emptied.account receiver.arena).limit = (session.ledger.account receiver.arena).limit := by
  -- A reset lets go what a drop would, and a session without the parameter balances.
  have alone := sound.erase_letGo name
  have let_go : (session.letGo name).ledger =
      session.ledger.releaseAll (receiver.held.charges Snapshot.format) := by
    rw [letGo_eq, chargesOf_eq found]
    rfl
  have others : ((session.letGo name).erase name).memoryAt receiver.arena =
      (session.erase name).memoryAt receiver.arena := by
    rw [letGo_eq]
    rfl
  refine ⟨(session.letGo name).ledger, TransferParameter.reset_eq_ok_iff.mpr ⟨rfl, let_go⟩, ?_,
    alone.within receiver.arena, ?_⟩
  · rw [← others, ← heldAt_charges_eq_memoryAt]
    exact alone.balanced receiver.arena
  · rw [let_go, Ledger.account_releaseAll]
    rfl

/-- A parameter takes in the record of a valid one, if it takes records of this length, just where
its arena has room for the lists in the record on top of all that is in use there, its own lists
included. If there is no such room, the arena refuses the first list, in the order of the wire, that
does not fit on top of the lists before it, and nothing changes. Where the record is taken in, its
lists take the place of those of the parameter. If the parameter is reset before, room is needed
next to what the other objects hold in the arena, and next to nothing else. -/
theorem record_admitted_where_it_fits (reached : session.Reached)
    (found : session.find? name = some (.parameter receiver))
    (reachable : Object.Reachable (.parameter sender)) {buffer buffer' : List UInt8}
    {start stop : Nat} (written : sender.write buffer start = .ok (buffer', stop))
    (admitted : sender.snapshot.recordSize ≤ receiver.settings.recordLimit) :
    ((∃ answer after, receiver.read buffer' start session.ledger = .ok answer after) ↔
      session.ledger.used receiver.arena + total sender.snapshot.listMemory ≤
        (session.ledger.account receiver.arena).limit) ∧
    ((session.ledger.account receiver.arena).limit <
        session.ledger.used receiver.arena + total sender.snapshot.listMemory →
      ∃ earlier size later, sender.snapshot.listMemory = earlier ++ size :: later ∧
        session.ledger.used receiver.arena + total earlier ≤
          (session.ledger.account receiver.arena).limit ∧
        (session.ledger.account receiver.arena).limit <
          session.ledger.used receiver.arena + total earlier + size ∧
        receiver.read buffer' start session.ledger =
          .error (.exhausted ⟨(session.ledger.account receiver.arena).label, size,
            session.ledger.used receiver.arena + total earlier,
            (session.ledger.account receiver.arena).limit⟩) session.ledger) ∧
    (∀ result stop' after,
      receiver.read buffer' start session.ledger = .ok (result, stop') after →
        (result = { receiver with snapshot := sender.snapshot } ∧ stop' = stop) ∧
        total receiver.snapshot.listMemory ≤ session.ledger.used receiver.arena ∧
        after.used receiver.arena = session.ledger.used receiver.arena -
          total receiver.snapshot.listMemory + total sender.snapshot.listMemory ∧
        ∀ arena, arena ≠ receiver.arena → after.account arena = session.ledger.account arena) ∧
    ∃ blank emptied, receiver.reset session.ledger = .ok blank emptied ∧
      ((∃ answer after, blank.read buffer' start emptied = .ok answer after) ↔
        total sender.snapshot.listMemory + (session.erase name).memoryAt receiver.arena ≤
          (session.ledger.account receiver.arena).limit) := by
  have sound := reached.sound
  have within := sound.within receiver.arena
  obtain ⟨_, sound', _, found'⟩ := reachable.sound
  have autoincrement : sender.snapshot.autoincrement.isValid := (sound'.find? found').valid
  refine ⟨?_, ?_, ?_, ?_⟩
  · exact TransferParameter.exists_read_of_write_iff autoincrement written admitted within
  · exact TransferParameter.read_of_write_eq_exhausted autoincrement written admitted within
  · intro result stop' after done
    obtain ⟨-, made, rfl⟩ := (TransferParameter.read_of_write_eq_ok_iff_room autoincrement
      written admitted within).mp done
    have held := sound.listMemory_le found
    refine ⟨made, held, TransferParameter.used_exchange held _, fun arena different => ?_⟩
    exact TransferParameter.account_exchange_of_ne _ _ different
  · obtain ⟨emptied, done, used, within, limit⟩ := sound.exists_reset found
    let blank : TransferParameter := { receiver with snapshot := {} }
    have room : (∃ answer after, blank.read buffer' start emptied = .ok answer after) ↔ _ :=
      TransferParameter.exists_read_of_write_iff autoincrement written admitted within
    refine ⟨blank, emptied, done, ?_⟩
    rw [room, used, limit, Nat.add_comm]

/-- With 16 of 40 bytes in use, the intervals and the hidden tablets of the record fit, and the row
key does not. -/
theorem record_admitted_where_it_fits_copying :
    ∃ buffer tight roomy,
      TransferParameter.sentSuccessor.write (List.replicate 362 0) 0 = .ok (buffer, 362) ∧
      (run {} copying).find? "p" = some (.parameter tight) ∧
      (run {} copying).find? "r" = some (.parameter roomy) ∧
      tight.read buffer 0 (run {} copying).ledger =
        .error (.exhausted ⟨"migration_tablet_param", 16, 40, 40⟩) (run {} copying).ledger ∧
      ∃ answer after, roomy.read buffer 0 (run {} copying).ledger = .ok answer after := by
  have reached : (run {} copying).Reached := ⟨copying, rfl⟩
  have room : 0 + 362 ≤ (List.replicate 362 (0 : UInt8)).length :=
    Nat.le_of_eq (by rw [List.length_replicate])
  obtain ⟨buffer, written⟩ := TransferParameter.write_sentSuccessor room
  have tight : (run {} copying).find? "p" = some (.parameter _) := rfl
  have roomy : (run {} copying).find? "r" = some (.parameter _) := rfl
  obtain ⟨-, refused, -⟩ := record_admitted_where_it_fits reached tight
    TransferParameter.reachable_sentSuccessor written (by decide)
  obtain ⟨accepted, -⟩ := record_admitted_where_it_fits reached roomy
    TransferParameter.reachable_sentSuccessor written (by decide)
  obtain ⟨earlier, size, later, split, room, beyond, failed⟩ := refused (by decide)
  replace split : [16, 8, 16, 16, 0] = earlier ++ size :: later := split
  replace room : 16 + total earlier ≤ 40 := room
  replace beyond : 40 < 16 + total earlier + size := beyond
  have third : size = 16 ∧ total earlier = 24 := by
    rcases earlier with _ | ⟨first, _ | ⟨second, _ | ⟨third, rest⟩⟩⟩
    all_goals
      simp only [List.cons_append, List.nil_append, List.cons.injEq, Arena.total_cons,
        Arena.total_nil] at split room beyond ⊢
      omega
  refine ⟨buffer, _, _, written, tight, roomy, ?_, accepted.mpr (by decide)⟩
  rw [third.1, third.2] at failed
  exact failed

end Session

end TabletRecords
