import TabletRecords.Proofs.Session.Accounting
import TabletRecords.Proofs.Session.Failure

/-!
Assigning parameters. A parameter takes a copy of what another one transfers just where its own
arena has room for the copy on top of what it holds until then. The copy is charged to its arena
alone, and from then on the two parameters share nothing but their contents.
-/
namespace TabletRecords

open Arena (Account ArenaId Ledger total)
open Outcome

namespace TransferParameter

variable {parameter source result : TransferParameter} {before after : Ledger}

def exchange (parameter : TransferParameter) (ledger : Ledger) (size : Nat) : Ledger :=
  (ledger.set parameter.arena { ledger.account parameter.arena with
    used := ledger.used parameter.arena + size }).releaseAll (parameter.held.charges Snapshot.format)

theorem limit_exchange (parameter : TransferParameter) (ledger : Ledger) (size : Nat) :
    ((parameter.exchange ledger size).account parameter.arena).limit =
      (ledger.account parameter.arena).limit := by
  refine (congrArg Account.limit (Ledger.account_set_releaseAll _ _ _ _)).trans ?_
  rfl

theorem used_exchange {ledger : Ledger}
    (held : total parameter.snapshot.listMemory ≤ ledger.used parameter.arena) (size : Nat) :
    (parameter.exchange ledger size).used parameter.arena =
      ledger.used parameter.arena - total parameter.snapshot.listMemory + size := by
  have footprint := Snapshot.footprint_eq_total parameter.snapshot
  refine (congrArg Account.used (Ledger.account_set_releaseAll _ _ _ _)).trans ?_
  show _ + _ - Snapshot.format.footprint parameter.snapshot = _
  omega

theorem account_exchange_of_ne (ledger : Ledger) (size : Nat) {arena : ArenaId}
    (different : arena ≠ parameter.arena) :
    (parameter.exchange ledger size).account arena = ledger.account arena :=
  Ledger.account_set_releaseAll_of_ne _ _ _ different

theorem assign_eq_ok_iff_room
    (within : before.used parameter.arena ≤ (before.account parameter.arena).limit) :
    parameter.assign source before = .ok result after ↔
      (source.snapshot.isValid ∧ before.used parameter.arena + total source.snapshot.listMemory ≤
        (before.account parameter.arena).limit) ∧
      result = { parameter with snapshot := source.snapshot } ∧
      after = parameter.exchange before (total source.snapshot.listMemory) := by
  simp only [assign_eq_ok_iff, setPart_eq_ok_iff, Snapshot.chargeAll_charges_eq_ok_iff within]
  constructor
  · rintro ⟨valid, rfl, _, ⟨room, rfl⟩, rfl⟩
    exact ⟨⟨valid, room⟩, rfl, rfl⟩
  · rintro ⟨⟨valid, room⟩, rfl, rfl⟩
    exact ⟨valid, rfl, _, ⟨room, rfl⟩, rfl⟩

theorem assign_eq_exhausted
    (within : before.used parameter.arena ≤ (before.account parameter.arena).limit)
    (valid : source.snapshot.isValid)
    (full : (before.account parameter.arena).limit <
      before.used parameter.arena + total source.snapshot.listMemory) :
    ∃ refusal, parameter.assign source before = .error (.exhausted refusal) before := by
  obtain ⟨earlier, size, later, -, -, -, refused⟩ := Snapshot.chargeAll_charges_eq_error within full
  rw [assign, valid]
  exact ⟨_, bind_eq_of_error (Charging.holding_of_refused refused)⟩

theorem write_eq_of_le (same : result.snapshot = source.snapshot)
    (admitted : source.snapshot.recordSize ≤ result.settings.recordLimit)
    (admitted' : source.snapshot.recordSize ≤ source.settings.recordLimit) (buffer : List UInt8)
    (position : Nat) : result.write buffer position = source.write buffer position := by
  have written : Wire.Record.write Snapshot.format Snapshot.currentVersion source.snapshot
      result.settings.recordLimit buffer position =
        Wire.Record.write Snapshot.format Snapshot.currentVersion source.snapshot
          source.settings.recordLimit buffer position :=
    Wire.Record.write_eq_of_le admitted admitted' buffer position
  simp only [write, same, written]

theorem exists_toRecord (valid : source.snapshot.isValid)
    (small : source.snapshot.recordSize < 0x80000000)
    (admitted : source.snapshot.recordSize ≤ source.settings.recordLimit) :
    ∃ bytes, source.toRecord = .ok bytes := by
  have room : 0 + source.snapshot.recordSize ≤
      (List.replicate source.snapshot.recordSize (0 : UInt8)).length := by simp
  exact ⟨_, toRecord_eq_ok_iff.mpr ⟨_, write_eq_ok_iff.mpr ⟨valid, _,
    Wire.Record.write_eq_ok_iff.mpr ⟨⟨small, admitted, room⟩, rfl, rfl, rfl⟩⟩⟩⟩

end TransferParameter

namespace Session

open Script

variable {session : Session} {name other : String} {parameter source : TransferParameter}

theorem Sound.listMemory_le (sound : session.Sound)
    (found : session.find? name = some (.parameter parameter)) :
    total parameter.snapshot.listMemory ≤ session.ledger.used parameter.arena := by
  have held := sound.heldAt_le_used found parameter.arena
  rwa [Object.heldAt_charges, Object.payer?, if_pos rfl, Object.memory,
    ← Snapshot.footprint_eq_lengths, Snapshot.footprint_eq_total] at held

theorem step_assign_eq_ok {result : TransferParameter} {after : Ledger}
    (found : session.find? name = some (.parameter parameter))
    (found' : session.find? other = some (.parameter source))
    (done : parameter.assign source session.ledger = .ok result after) :
    session.step (.assign name other) =
      (.ok .done, { session with ledger := after }.insert name (.parameter result)) := by
  have charged := charging_eq_ok_iff.mpr ⟨after, done, rfl⟩
  have ended : (Step.assign name other).script session =
      .ok .done ({ session with ledger := after }.insert name (.parameter result)) := by
    refine (bind_eq_of_ok (want_eq_ok ?_)).trans ((bind_eq_of_ok (want_eq_ok ?_)).trans
      (bind_eq_of_ok charged))
    · rw [found]
      rfl
    · rw [found']
      rfl
  rw [step, ended]

theorem step_assign_eq_error {fault : Fault} {after : Ledger}
    (found : session.find? name = some (.parameter parameter))
    (found' : session.find? other = some (.parameter source))
    (failed : parameter.assign source session.ledger = .error fault after) :
    session.step (.assign name other) = (.error (.fault fault), { session with ledger := after }) := by
  have charged := charging_eq_error_iff.mpr ⟨fault, after, failed, rfl, rfl⟩
  have stopped : (Step.assign name other).script session =
      .error (.fault fault) { session with ledger := after } := by
    refine (bind_eq_of_ok (want_eq_ok ?_)).trans ((bind_eq_of_ok (want_eq_ok ?_)).trans
      (bind_eq_of_error charged))
    · rw [found]
      rfl
    · rw [found']
      rfl
  rw [step, stopped]

/-- A parameter is assigned to another one just where it is valid and the other's arena has room for
its lists, next to all that is charged there and the other's own lists among that. Then the other
parameter keeps its arena and its settings and transfers the same, from lists of its own; its old
lists are let go, nothing else changes, and both write the same records as far as their limits admit
them. A valid parameter that does not fit is refused by the arena. -/
theorem assign_copies_where_it_fits (reached : session.Reached) (distinct : name ≠ other)
    (found : session.find? name = some (.parameter parameter))
    (found' : session.find? other = some (.parameter source)) :
    ((session.step (.assign name other)).1 = .ok .done ↔
      source.snapshot.isValid ∧
        session.ledger.used parameter.arena + total source.snapshot.listMemory ≤
          (session.ledger.account parameter.arena).limit) ∧
    (∀ after, session.step (.assign name other) = (.ok .done, after) →
      source.snapshot.isValid ∧
      after.find? name = some (.parameter { parameter with snapshot := source.snapshot }) ∧
      (after.ledger.account parameter.arena).limit =
        (session.ledger.account parameter.arena).limit ∧
      total parameter.snapshot.listMemory ≤ session.ledger.used parameter.arena ∧
      after.ledger.used parameter.arena = session.ledger.used parameter.arena -
        total parameter.snapshot.listMemory + total source.snapshot.listMemory ∧
      after.find? other = some (.parameter source) ∧
      after.ledger.account source.arena = session.ledger.account source.arena ∧
      (source.snapshot.recordSize ≤ parameter.settings.recordLimit →
        source.snapshot.recordSize ≤ source.settings.recordLimit →
        (∀ buffer position,
          { parameter with snapshot := source.snapshot }.write buffer position =
            source.write buffer position) ∧
        { parameter with snapshot := source.snapshot }.toRecord = source.toRecord ∧
        (source.snapshot.recordSize < 0x80000000 → ∃ bytes, source.toRecord = .ok bytes))) ∧
    (source.snapshot.isValid →
      (session.ledger.account parameter.arena).limit <
        session.ledger.used parameter.arena + total source.snapshot.listMemory →
      ∃ refusal, session.step (.assign name other) =
        (.error (.fault (.exhausted refusal)), session)) := by
  have within := reached.sound.within parameter.arena
  have held := reached.sound.listMemory_le found
  -- What is charged to the target's arena leaves the source's account alone.
  have apart : source.arena ≠ parameter.arena := by
    intro shared
    exact distinct (reached.apart name other parameter.arena ⟨_, found, rfl⟩
      ⟨_, found', congrArg some shared⟩)
  refine ⟨?_, ?_, ?_⟩
  · constructor
    · intro succeeded
      cases done : parameter.assign source session.ledger with
      | ok result after => exact ((TransferParameter.assign_eq_ok_iff_room within).mp done).1
      | error fault after =>
        rw [step_assign_eq_error found found' done] at succeeded
        cases succeeded
    · intro room
      have done := (TransferParameter.assign_eq_ok_iff_room within).mpr ⟨room, rfl, rfl⟩
      rw [step_assign_eq_ok found found' done]
  · intro ended stepped
    cases done : parameter.assign source session.ledger with
    | error fault after =>
      rw [step_assign_eq_error found found' done] at stepped
      cases stepped
    | ok result after =>
      rw [step_assign_eq_ok found found' done] at stepped
      cases stepped
      obtain ⟨⟨valid, -⟩, rfl, rfl⟩ := (TransferParameter.assign_eq_ok_iff_room within).mp done
      refine ⟨valid, ?_, TransferParameter.limit_exchange _ _ _, held,
        TransferParameter.used_exchange held _, ?_,
        TransferParameter.account_exchange_of_ne _ _ apart, ?_⟩
      · rw [find?_insert, if_pos rfl]
      · rw [find?_insert, if_neg (Ne.symm distinct)]
        exact found'
      · intro admitted admitted'
        have written : ∀ buffer position,
            { parameter with snapshot := source.snapshot }.write buffer position =
              source.write buffer position :=
          TransferParameter.write_eq_of_le rfl admitted admitted'
        refine ⟨written, ?_, fun small => TransferParameter.exists_toRecord valid small admitted'⟩
        simp only [TransferParameter.toRecord, written]
  · intro valid full
    obtain ⟨refusal, failed⟩ := TransferParameter.assign_eq_exhausted within valid full
    exact ⟨refusal, step_assign_eq_error found found' failed⟩

def copying : List Step := occupying ++ [.makeParameter "r" {}, .attach "r" "b"]

theorem assign_copies_where_it_fits_copying :
    ((run {} copying).step (.assign "r" "q")).1 = .ok .done ∧
      (run {} copying).ledger.used ⟨3⟩ = 16 ∧
      ((run {} copying).step (.assign "r" "q")).2.ledger.used ⟨3⟩ = 16 - 16 + 32 ∧
      ∃ refusal, (run {} copying).step (.assign "p" "q") =
        (.error (.fault (.exhausted refusal)), run {} copying) := by
  have reached : (run {} copying).Reached := ⟨copying, rfl⟩
  obtain ⟨accepted, copied, -⟩ :=
    assign_copies_where_it_fits reached (by decide : "r" ≠ "q") rfl rfl
  obtain ⟨-, -, refused⟩ :=
    assign_copies_where_it_fits reached (by decide : "p" ≠ "q") rfl rfl
  have done := accepted.mpr ⟨rfl, by decide⟩
  obtain ⟨-, -, -, -, used, -⟩ := copied _ (Prod.ext done rfl)
  exact ⟨done, rfl, used, refused rfl (by decide)⟩

end Session

end TabletRecords
