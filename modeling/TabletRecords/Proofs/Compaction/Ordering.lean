import Mathlib.Order.Bounds.Defs
import TabletRecords.Proofs.Building
import TabletRecords.Proofs.Session.Changes
import TabletRecords.Proofs.Wire.Encoders

/-!
Queues in order. A valid queue ascends from the last finished snapshot through all that are pending,
although its check looks at neighbours only. A compaction joins a queue where it exceeds all of
these and the longer list finds room next to the shorter one; so of any compactions that are pushed
in turn the queue keeps the successive maxima.
-/
namespace TabletRecords.CompactionQueue

open Arena (Account ArenaId Ledger)
open Charging Outcome
open Wire.Format (Encodes)

variable {queue longer : CompactionQueue} {compaction : Compaction}

def snapshots (queue : CompactionQueue) : List Int64 := queue.pending.map (·.snapshot)

structure Ordered (queue : CompactionQueue) : Prop where
  notNegative : 0 ≤ queue.lastSnapshot
  ascending : queue.snapshots.Pairwise (· < ·)
  unfinished : ∀ snapshot ∈ queue.snapshots, queue.lastSnapshot < snapshot

def bounds (queue : CompactionQueue) : List Int64 := queue.lastSnapshot :: queue.snapshots

theorem forall_mem_bounds_iff {p : Int64 → Prop} :
    (∀ snapshot ∈ queue.bounds, p snapshot) ↔
      p queue.lastSnapshot ∧ ∀ snapshot ∈ queue.snapshots, p snapshot := by
  simp [bounds]

theorem ascendsFrom_iff {floor : Int64} {pending : List Compaction} :
    ascendsFrom floor pending ↔ (floor :: pending.map (·.snapshot)).Pairwise (· < ·) := by
  induction pending generalizing floor with
  | nil => simp [ascendsFrom]
  | cons compaction rest ih =>
    rw [ascendsFrom, Bool.and_eq_true, decide_eq_true_eq, ih, List.map_cons]
    simp only [List.pairwise_cons, List.forall_mem_cons]
    constructor
    · rintro ⟨first, later, rest⟩
      exact ⟨⟨first, fun snapshot mem => Int64.lt_trans first (later snapshot mem)⟩, later, rest⟩
    · rintro ⟨⟨first, -⟩, later, rest⟩
      exact ⟨first, later, rest⟩

theorem isValid_iff_pairwise :
    queue.isValid ↔ 0 ≤ queue.lastSnapshot ∧ queue.bounds.Pairwise (· < ·) := by
  rw [isValid, Bool.and_eq_true, decide_eq_true_eq, ascendsFrom_iff]
  rfl

theorem isValid_iff_ordered : queue.isValid ↔ queue.Ordered := by
  rw [isValid_iff_pairwise, bounds, List.pairwise_cons]
  constructor
  · rintro ⟨notNegative, unfinished, ascending⟩
    exact ⟨notNegative, ascending, unfinished⟩
  · rintro ⟨notNegative, ascending, unfinished⟩
    exact ⟨notNegative, unfinished, ascending⟩

theorem next?_eq_none_iff : queue.next? = none ↔ queue.pending = [] := by
  simp [next?]

theorem Ordered.next?_eq_some_iff (ordered : queue.Ordered) {snapshot : Int64} :
    queue.next? = some snapshot ↔ IsLeast {other | other ∈ queue.snapshots} snapshot := by
  have ascending := ordered.ascending
  have head : queue.next? = queue.snapshots.head? := (List.head?_map ..).symm
  rw [head]
  cases pending : queue.snapshots with
  | nil =>
    constructor
    · intro h
      cases h
    · rintro ⟨mem, -⟩
      cases mem
  | cons first rest =>
    rw [pending, List.pairwise_cons] at ascending
    have least : ∀ other ∈ first :: rest, first ≤ other := by
      intro other mem
      rcases List.mem_cons.mp mem with rfl | mem
      · exact Int64.le_refl _
      · exact Int64.le_of_lt (ascending.1 other mem)
    constructor
    · intro h
      cases h
      exact ⟨List.mem_cons_self, least⟩
    · rintro ⟨mem, below⟩
      have le := below (List.mem_cons_self (a := first) (l := rest))
      exact congrArg some (Int64.le_antisymm (least snapshot mem) le)

/-! ## Pushing -/

theorem lt_iff_of_getLast? {snapshots : List Int64} {last snapshot : Int64}
    (ascending : snapshots.Pairwise (· < ·)) (ends : snapshots.getLast? = some last) :
    last < snapshot ↔ ∀ other ∈ snapshots, other < snapshot := by
  obtain ⟨earlier, rfl⟩ := List.getLast?_eq_some_iff.mp ends
  obtain ⟨-, -, below⟩ := List.pairwise_append.mp ascending
  constructor
  · intro lt other mem
    rcases List.mem_append.mp mem with mem | mem
    · exact Int64.lt_trans (below other mem last (List.mem_singleton_self _)) lt
    · rwa [List.mem_singleton.mp mem]
  · intro all
    exact all last (by simp)

theorem floor_lt_iff (valid : queue.isValid) {snapshot : Int64} :
    queue.floor < snapshot ↔ ∀ other ∈ queue.bounds, other < snapshot := by
  apply lt_iff_of_getLast? (isValid_iff_pairwise.mp valid).2
  simp [bounds, snapshots, floor, List.getLast?_cons]

theorem push_eq_ok_iff (valid : queue.isValid) :
    queue.push compaction = .ok longer ↔
      (∀ other ∈ queue.bounds, other < compaction.snapshot) ∧
        longer = { queue with pending := queue.pending ++ [compaction] } := by
  rw [← floor_lt_iff valid, push]
  by_cases behind : compaction.snapshot ≤ queue.floor
  · simp [behind, Int64.not_lt.mpr behind]
  · simp [behind, Int64.not_le.mp behind, eq_comm]

theorem isValid_append (valid : queue.isValid)
    (ahead : ∀ other ∈ queue.bounds, other < compaction.snapshot) :
    isValid { queue with pending := queue.pending ++ [compaction] } := by
  obtain ⟨notNegative, ascending⟩ := isValid_iff_pairwise.mp valid
  refine isValid_iff_pairwise.mpr ⟨notNegative, ?_⟩
  rw [bounds, snapshots, List.map_append, ← List.cons_append]
  refine List.pairwise_append.mpr ⟨ascending, List.pairwise_singleton _ _, ?_⟩
  intro other mem last added
  rw [List.map_singleton, List.mem_singleton] at added
  exact added ▸ ahead other mem

/-! ## Scheduling -/

variable {held result : Held CompactionQueue} {arena : ArenaId} {before after : Ledger}

/-- A compaction is scheduled where it exceeds all others and the longer list has room while the
shorter one is still held. -/
theorem schedule_eq_ok_iff (valid : held.value.isValid) :
    schedule held compaction arena before = .ok result after ↔
      ((∀ other ∈ held.value.bounds, other < compaction.snapshot) ∧
        before.used arena + 32 * (held.value.pending.length + 1) ≤ (before.account arena).limit) ∧
      result = ⟨{ held.value with pending := held.value.pending ++ [compaction] }, some arena⟩ ∧
      after = (before.set arena { before.account arena with
        used := before.used arena + 32 * (held.value.pending.length + 1) }).releaseAll
          (held.charges format) := by
  simp only [schedule, bind_eq_ok_iff, ofExcept_eq_ok_iff, push_eq_ok_iff valid, replace_eq_ok_iff,
    Account.chargeAll_eq_ok_iff]
  have memory : Arena.total (format.charges
      { held.value with pending := held.value.pending ++ [compaction] }) =
        32 * (held.value.pending.length + 1) := by
    rw [← Wire.Format.footprint, footprint_eq, List.length_append, List.length_singleton,
      Nat.mul_comm]
  have charged : format.charges
      { held.value with pending := held.value.pending ++ [compaction] } ≠ [] := by
    intro none
    rw [none, Arena.total_nil] at memory
    omega
  constructor
  · rintro ⟨_, _, ⟨⟨ahead, rfl⟩, rfl⟩, rfl, _, ⟨room, rfl⟩, rfl⟩
    rw [memory] at room ⊢
    exact ⟨⟨ahead, room.resolve_left charged⟩, rfl, rfl⟩
  · rintro ⟨⟨ahead, room⟩, rfl, rfl⟩
    rw [← memory] at room ⊢
    exact ⟨_, _, ⟨⟨ahead, rfl⟩, rfl⟩, rfl, _, ⟨.inr room, rfl⟩, rfl⟩

theorem isValid_of_schedule (valid : held.value.isValid)
    (done : schedule held compaction arena before = .ok result after) : result.value.isValid := by
  obtain ⟨⟨ahead, -⟩, rfl, -⟩ := (schedule_eq_ok_iff valid).mp done
  exact isValid_append valid ahead

/-- A queue and the ledger, after a compaction has been offered: one that is refused changes
neither. -/
def offer (state : Held CompactionQueue × Ledger) (push : Compaction × ArenaId) :
    Held CompactionQueue × Ledger :=
  match schedule state.1 push.1 push.2 state.2 with
  | .ok longer after => (longer, after)
  | .error _ after => (state.1, after)

def Roomy : Held CompactionQueue × Ledger → List (Compaction × ArenaId) → Prop
  | _, [] => True
  | state, push :: pushes =>
      state.2.used push.2 + 32 * (state.1.value.pending.length + 1) ≤
        (state.2.account push.2).limit ∧ Roomy (offer state push) pushes

/-- Of compactions that come one after another, those that exceed the given snapshots and those of
all that are kept before. -/
def ascents : List Int64 → List Compaction → List Compaction
  | _, [] => []
  | kept, compaction :: rest =>
      if kept.all (· < compaction.snapshot) then
        compaction :: ascents (kept ++ [compaction.snapshot]) rest
      else ascents kept rest

theorem offer_of_ahead (valid : held.value.isValid)
    (ahead : ∀ other ∈ held.value.bounds, other < compaction.snapshot)
    (room : before.used arena + 32 * (held.value.pending.length + 1) ≤
      (before.account arena).limit) :
    (offer (held, before) (compaction, arena)).1 =
      ⟨{ held.value with pending := held.value.pending ++ [compaction] }, some arena⟩ := by
  have done := (schedule_eq_ok_iff valid).mpr ⟨⟨ahead, room⟩, rfl, rfl⟩
  rw [offer, done]

theorem offer_of_not_ahead (valid : held.value.isValid)
    (behind : ¬∀ other ∈ held.value.bounds, other < compaction.snapshot) :
    offer (held, before) (compaction, arena) = (held, before) := by
  rw [offer]
  cases done : schedule held compaction arena before with
  | ok longer after => exact absurd ((schedule_eq_ok_iff valid).mp done).1.1 behind
  | error fault after =>
    exact congrArg (held, ·) ((schedule_accounts held compaction arena).restores _ _ _ done)

theorem foldl_offer (valid : held.value.isValid) {pushes : List (Compaction × ArenaId)}
    (roomy : Roomy (held, before) pushes) :
    (pushes.foldl offer (held, before)).1.value =
        { held.value with
          pending := held.value.pending ++ ascents held.value.bounds (pushes.map (·.1)) } ∧
      (pushes.foldl offer (held, before)).1.value.isValid := by
  induction pushes generalizing held before with
  | nil => exact ⟨by simp [ascents], valid⟩
  | cons push pushes ih =>
    obtain ⟨compaction, arena⟩ := push
    obtain ⟨room, roomy⟩ := roomy
    rw [List.foldl_cons, List.map_cons, ascents]
    -- That the queue is in order carries the induction: only then do the bounds decide a push.
    by_cases ahead : ∀ other ∈ held.value.bounds, other < compaction.snapshot
    · rw [if_pos (by simpa using ahead)]
      have longer := offer_of_ahead valid ahead room
      have valid' : (offer (held, before) (compaction, arena)).1.value.isValid := by
        rw [longer]
        exact isValid_append valid ahead
      obtain ⟨kept, still⟩ := ih valid' roomy
      refine ⟨kept.trans ?_, still⟩
      rw [longer]
      simp [bounds, snapshots]
    · rw [if_neg (by simpa using ahead)]
      rw [offer_of_not_ahead valid ahead] at roomy ⊢
      exact ih valid roomy

/-! ## Reading -/

theorem receive_written_iff {bytes rest : List UInt8} (written : Encodes.Written format queue bytes)
    (room : before.used arena + 32 * queue.pending.length ≤ (before.account arena).limit) :
    (∃ after, Charging.receive format (bytes ++ rest) arena before = .ok ⟨queue, some arena⟩ after) ↔
      queue.isValid := by
  obtain ⟨short, rfl⟩ := (Encodes.written_iff format).mp written
  have counted : queue.pending.length < Wire.BigEndian.capacity 4 := short _ List.mem_cons_self
  simp only [receive_eq_ok_iff format_lawful]
  constructor
  · rintro ⟨after, _, _, _, h, legal, -⟩
    cases h
    exact legal.isValid
  · intro valid
    rw [Nat.mul_comm, ← footprint_eq] at room
    exact ⟨_, queue, _, rest, rfl, ⟨valid, counted⟩, rfl, Account.chargeAll_of_room room, rfl⟩

theorem eq_of_receive_written {bytes rest : List UInt8}
    (written : Encodes.Written format queue bytes)
    (done : Charging.receive format (bytes ++ rest) arena before = .ok result after) :
    result = ⟨queue, some arena⟩ := by
  obtain ⟨short, rfl⟩ := (Encodes.written_iff format).mp written
  obtain ⟨found, _, rest', rfl, legal, same, -⟩ := (receive_eq_ok_iff format_lawful).mp done
  rw [eq_of_bytes_append (short _ (List.mem_append_right _ List.mem_cons_self)) legal.length_lt same]

theorem step_schedule_of_error {session : Session} {name payer : String}
    {error : Session.StepError}
    (failed : (session.step (.schedule name payer compaction)).1 = .error error) :
    (session.step (.schedule name payer compaction)).2 = session := by
  have traceless : (Session.Step.schedule name payer compaction).script.Ends session
      fun _ _ => True := by
    refine (Session.Script.arena_offers payer).bind fun arena _ => ?_
    refine (Session.Script.object_reads name).bind fun object _ => ?_
    cases object with
    | compactions held =>
      exact .charging (schedule_accounts held compaction arena).restores
        fun _ _ _ => ⟨_, _, rfl, trivial⟩
    | _ => exact Session.Script.unusable_ends
  rw [Session.step_eq_of_error traceless failed]

/-- Queues stay in order. What the check accepts ascends from the last finished snapshot through all
that are pending, of which the next one is the least. A compaction is scheduled where it exceeds all
of these and the longer list has room next to the shorter one; then it is the last of the queue,
which is in order again, and otherwise nothing changes. So of any compactions that are pushed in
turn, with room for each, the ones that exceed all before them are kept. Of what was put down for
any queue, in order or not, the queues in order are read. -/
theorem queues_stay_in_order (held : Held CompactionQueue) :
    (held.value.isValid ↔ held.value.Ordered) ∧
    (held.value.isValid →
      (held.value.next? = none ↔ held.value.pending = []) ∧
      (∀ snapshot, held.value.next? = some snapshot ↔
        IsLeast {other | other ∈ held.value.snapshots} snapshot) ∧
      (∀ compaction arena before,
        ((∃ longer after, schedule held compaction arena before = .ok longer after) ↔
          (held.value.lastSnapshot < compaction.snapshot ∧
            ∀ other ∈ held.value.snapshots, other < compaction.snapshot) ∧
          before.used arena + 32 * (held.value.pending.length + 1) ≤
            (before.account arena).limit) ∧
        (∀ longer after, schedule held compaction arena before = .ok longer after →
          longer = ⟨{ held.value with pending := held.value.pending ++ [compaction] }, some arena⟩ ∧
            longer.value.isValid) ∧
        ∀ fault after, schedule held compaction arena before = .error fault after →
          after = before) ∧
      ∀ pushes before, Roomy (held, before) pushes →
        (pushes.foldl offer (held, before)).1.value =
            { held.value with
              pending := held.value.pending ++ ascents held.value.bounds (pushes.map (·.1)) } ∧
          (pushes.foldl offer (held, before)).1.value.isValid) ∧
    (∀ (session : Session) name payer compaction error,
      (session.step (.schedule name payer compaction)).1 = .error error →
        (session.step (.schedule name payer compaction)).2 = session) ∧
    ∀ bytes rest arena (before : Ledger), Encodes.Written format held.value bytes →
      before.used arena + 32 * held.value.pending.length ≤ (before.account arena).limit →
      ((∃ result after,
          Charging.receive format (bytes ++ rest) arena before = .ok result after) ↔
        held.value.isValid) ∧
      ∀ result after, Charging.receive format (bytes ++ rest) arena before = .ok result after →
        result.value = held.value := by
  refine ⟨isValid_iff_ordered, ?_, fun _ _ _ _ _ => step_schedule_of_error, ?_⟩
  · intro valid
    have ordered := isValid_iff_ordered.mp valid
    refine ⟨next?_eq_none_iff, fun snapshot => ordered.next?_eq_some_iff, ?_, ?_⟩
    · intro compaction arena before
      refine ⟨?_, ?_, (schedule_accounts held compaction arena).restores before⟩
      · have ahead : (∀ other ∈ held.value.bounds, other < compaction.snapshot) ↔ _ :=
          forall_mem_bounds_iff
        rw [← ahead]
        constructor
        · rintro ⟨longer, after, done⟩
          exact ((schedule_eq_ok_iff valid).mp done).1
        · intro accepted
          exact ⟨_, _, (schedule_eq_ok_iff valid).mpr ⟨accepted, rfl, rfl⟩⟩
      · intro longer after done
        exact ⟨((schedule_eq_ok_iff valid).mp done).2.1, isValid_of_schedule valid done⟩
    · intro pushes before roomy
      exact foldl_offer valid roomy
  · intro bytes rest arena before written room
    refine ⟨?_, ?_⟩
    · rw [← receive_written_iff written room]
      constructor
      · rintro ⟨result, after, done⟩
        rw [eq_of_receive_written written done] at done
        exact ⟨after, done⟩
      · rintro ⟨after, done⟩
        exact ⟨_, after, done⟩
    · intro result after done
      rw [eq_of_receive_written written done]

def major (snapshot : Int64) : Compaction := ⟨snapshot, .major, .tenantMajor, 1, 1⟩

def backlog : CompactionQueue := { pending := [major 20, major 30], lastSnapshot := 10 }

def backlogLedger : Ledger := Ledger.empty.set ⟨0⟩ { label := "queue", limit := 256, used := 64 }

def offered : List (Compaction × ArenaId) :=
  [(major 25, ⟨0⟩), (major 40, ⟨0⟩), (major 35, ⟨0⟩), (major 50, ⟨0⟩)]

theorem queues_stay_in_order_backlog :
    IsLeast {other | other ∈ backlog.snapshots} 20 ∧
    (∃ longer after, schedule ⟨backlog, some ⟨0⟩⟩ (major 40) ⟨0⟩ backlogLedger =
      .ok longer after) ∧
    (¬∃ longer after, schedule ⟨backlog, some ⟨0⟩⟩ (major 25) ⟨0⟩ backlogLedger =
      .ok longer after) ∧
    (offered.foldl offer (⟨backlog, some ⟨0⟩⟩, backlogLedger)).1.value.snapshots =
      [20, 30, 40, 50] ∧
    ¬∃ result after, Charging.receive format
      (format.bytes { backlog with lastSnapshot := 20 } ++ [0]) ⟨0⟩ backlogLedger =
        .ok result after := by
  obtain ⟨-, valid, -, -⟩ := queues_stay_in_order ⟨backlog, some ⟨0⟩⟩
  obtain ⟨-, least, scheduled, pushed⟩ := valid rfl
  obtain ⟨-, -, -, read⟩ := queues_stay_in_order ⟨{ backlog with lastSnapshot := 20 }, none⟩
  refine ⟨(least 20).mp rfl, ?_, ?_, ?_, ?_⟩
  · exact (scheduled (major 40) ⟨0⟩ backlogLedger).1.mpr
      ⟨⟨by decide, by simp [backlog, snapshots, major]⟩, by decide⟩
  · rw [(scheduled (major 25) ⟨0⟩ backlogLedger).1]
    simp [backlog, snapshots, major]
  · have roomy : Roomy (⟨backlog, some ⟨0⟩⟩, backlogLedger) offered :=
      ⟨by decide, by decide, by decide, by decide, trivial⟩
    rw [(pushed offered backlogLedger roomy).1]
    decide
  · have written : Encodes.Written format { backlog with lastSnapshot := 20 } _ :=
      (Encodes.written_iff format).mpr ⟨by decide, rfl⟩
    rw [(read _ _ _ _ written (by decide)).1]
    decide

end TabletRecords.CompactionQueue
