import TabletRecords.Proofs.Session.Making

/-!
Steps on arenas, buffers and values. Each of them keeps a session sound.
-/
namespace TabletRecords.Session

open Arena (ArenaId Ledger)
open Charging (Accounts)
open Outcome Script

variable {session : Session}

theorem openArena_keeps (sound : session.Sound) (target label : String) (limit : Nat) :
    (Step.openArena target label limit).script.Keeps session := by
  have paid : (Object.arena ⟨session.ledger.next⟩).PaidBy ⟨session.ledger.next⟩ :=
    ⟨trivial, rfl, fun _ h => by cases h⟩
  have posting : session.ledger.Posting [] [] (session.ledger.openArena { label, limit }).2 :=
    .openArena sound.fresh rfl rfl (Arena.Account.chargeAll_nil_eq_ok_iff.mpr rfl)
  exact .of_ok rfl ⟨sound.store (paid.sound (Nat.lt_succ_self _)) posting target,
    posting.continues.trans (continues_letGo { session with ledger := _ } target)⟩

theorem shareArena_keeps (sound : session.Sound) (target arena : String) :
    (Step.shareArena target arena).script.Keeps session := by
  refine (arena_reads sound arena).bind fun arena opened => ?_
  have paid : (Object.arena arena).PaidBy arena := ⟨trivial, rfl, fun _ h => by cases h⟩
  exact Keeps.store sound (paid.sound opened) rfl target

theorem json_keeps (sound : session.Sound) (name : String) :
    (Step.json name).script.Keeps session := by
  refine (object_reads name).bind fun object _ => ?_
  cases object with
  | tablet tablet => exact Keeps.pure sound _
  | parameter parameter => exact Keeps.pure sound _
  | _ => exact unusable_ends

theorem copy_keeps (sound : session.Sound) (target source arena : String)
    (kind? : Option ValueKind) : (Step.copy target source arena kind?).script.Keeps session := by
  refine (arena_reads sound arena).bind fun arena opened => ?_
  refine (want_reads source _).bind fun operation copied => ?_
  obtain ⟨object, found, copies⟩ := copied
  exact (makes_copy (sound.find? found) copies).store sound opened target

theorem pushWord_keeps (sound : session.Sound) (target source arena : String) (item : UInt64) :
    (Step.pushWord target source arena item).script.Keeps session := by
  refine (arena_reads sound arena).bind fun arena opened => ?_
  exact (want_reads source _).bind fun items _ =>
    (makes_hold wraps_words trivial).store sound opened target

theorem makeSequence_keeps (sound : session.Sound) (target arena : String)
    (intervals : List Autoincrement.Interval) :
    (Step.makeSequence target arena intervals).script.Keeps session := by
  refine (arena_reads sound arena).bind fun arena opened => ?_
  refine Makes.store (wraps_autoincrement.makes
    (Autoincrement.Sequence.ofIntervals_accounts intervals arena) ?_) sound opened target
  intro before held after done
  obtain ⟨valid, rfl, -⟩ := Autoincrement.Sequence.ofIntervals_eq_ok_iff.mp done
  exact ⟨rfl, valid⟩

theorem withNext_keeps (sound : session.Sound) (target source arena : String)
    (columnId value : UInt64) :
    (Step.withNext target source arena columnId value).script.Keeps session := by
  refine (arena_reads sound arena).bind fun arena opened => ?_
  refine (want_reads source _).bind fun sequence offered => ?_
  obtain ⟨object, found, has⟩ := offered
  refine Makes.store (wraps_autoincrement.makes
    (Autoincrement.Sequence.withNext_accounts sequence columnId value arena) ?_) sound opened target
  intro before held after done
  obtain ⟨advanced, advances, rfl, -⟩ := Autoincrement.Sequence.withNext_eq_ok_iff.mp done
  have valid := (sound.find? found).isValid_autoincrement has
  exact ⟨rfl, Autoincrement.Sequence.isValid_of_advance valid advances⟩

theorem makeBinding_keeps (sound : session.Sound) (target : String)
    (dataTabletId lobMetaTabletId lobPieceTabletId : TabletId) :
    (Step.makeBinding target dataTabletId lobMetaTabletId lobPieceTabletId).script.Keeps session :=
  Keeps.store_unpaid sound (.binding _) trivial rfl rfl target

theorem makeQueue_keeps (sound : session.Sound) (target : String) :
    (Step.makeQueue target).script.Keeps session :=
  Keeps.store_unpaid sound (.compactions _) trivial rfl rfl target

theorem setHidden_keeps (sound : session.Sound) (name arena : String) (ids : List TabletId) :
    (Step.setHidden name arena ids).script.Keeps session := by
  refine (arena_reads sound arena).bind fun arena opened => ?_
  refine (object_reads name).bind fun object found => ?_
  cases object with
  | binding held =>
    refine Keeps.charging_put .binding sound found (Binding.setHidden_accounts held ids arena) ?_
      fun _ _ => ⟨_, rfl⟩
    intro changed after done posting
    have paid : (Object.binding changed).PaidBy arena :=
      ⟨trivial, Binding.payer_of_setHidden done, fun _ h => by cases h⟩
    exact paid.sound (Nat.lt_of_lt_of_le opened posting.next_le)
  | _ => exact unusable_ends

theorem makeSchema_keeps (sound : session.Sound) (target arena : String) (schemaVersion : Int64)
    (compatMode : CompatMode) (rowkeyColumns : List RowkeyColumn) (columns : List Column) :
    (Step.makeSchema target arena schemaVersion compatMode rowkeyColumns columns).script.Keeps
      session := by
  refine (arena_reads sound arena).bind fun arena opened => ?_
  refine Makes.store (wraps_schema.makes (StorageSchema.ofColumns_accounts schemaVersion compatMode
    rowkeyColumns columns arena) ?_) sound opened target
  intro before held after done
  obtain ⟨-, rfl, -⟩ := StorageSchema.ofColumns_eq_ok_iff.mp done
  exact ⟨rfl, trivial⟩

theorem schedule_keeps (sound : session.Sound) (name arena : String) (compaction : Compaction) :
    (Step.schedule name arena compaction).script.Keeps session := by
  refine (arena_reads sound arena).bind fun arena opened => ?_
  refine (object_reads name).bind fun object found => ?_
  cases object with
  | compactions held =>
    refine Keeps.charging_put .compactions sound found
      (CompactionQueue.schedule_accounts held compaction arena) ?_ fun _ _ => ⟨_, rfl⟩
    intro longer after done posting
    have paid : (Object.compactions longer).PaidBy arena :=
      ⟨trivial, CompactionQueue.payer_of_schedule done, fun _ h => by cases h⟩
    exact paid.sound (Nat.lt_of_lt_of_le opened posting.next_le)
  | _ => exact unusable_ends

/-! Edits assign no lists, so they change nothing of what an object holds. -/

theorem editBinding_keeps (sound : session.Sound) (name : String) (edit : BindingEdit) :
    (Step.editBinding name edit).script.Keeps session := by
  refine (object_reads name).bind fun object found => ?_
  cases object with
  | binding held =>
    have same := sound.find? found
    exact Keeps.put (.binding { held with value := edit.apply held.value }) sound found
      (same.edit trivial rfl rfl fun _ h => by cases h) rfl ⟨_, rfl⟩
  | _ => exact unusable_ends

theorem editSchema_keeps (sound : session.Sound) (name : String) (edit : SchemaEdit) :
    (Step.editSchema name edit).script.Keeps session := by
  refine (object_reads name).bind fun object found => ?_
  cases object with
  | schema held =>
    have same := sound.find? found
    exact Keeps.put (.schema { held with value := edit.apply held.value }) sound found
      (same.edit trivial rfl rfl fun _ h => by cases h) rfl ⟨_, rfl⟩
  | _ => exact unusable_ends

theorem editQueue_keeps (sound : session.Sound) (name : String) (edit : QueueEdit) :
    (Step.editQueue name edit).script.Keeps session := by
  refine (object_reads name).bind fun object found => ?_
  cases object with
  | compactions held =>
    have same := sound.find? found
    exact Keeps.put (.compactions { held with value := edit.apply held.value }) sound found
      (same.edit trivial rfl rfl fun _ h => by cases h) rfl ⟨_, rfl⟩
  | _ => exact unusable_ends

theorem makeBuffer_keeps (sound : session.Sound) (target : String) (bytes : List UInt8) :
    (Step.makeBuffer target bytes).script.Keeps session :=
  Keeps.store_unpaid sound (.buffer bytes) trivial rfl rfl target

theorem makeRecord_keeps (sound : session.Sound) (target source : String) :
    (Step.makeRecord target source).script.Keeps session := by
  refine (object_reads source).bind fun object _ => ?_
  cases object with
  | tablet tablet => exact (ofResult_reads _).bind fun bytes _ => makeBuffer_keeps sound target bytes
  | parameter parameter =>
    exact (ofResult_reads _).bind fun bytes _ => makeBuffer_keeps sound target bytes
  | _ => exact unusable_ends

theorem put_buffer_keeps {α : Type} {script : Script α} (sound : session.Sound) {name : String}
    {old : List UInt8} (found : session.find? name = some (.buffer old)) (new : List UInt8)
    (puts : ∃ answer, script session = .ok answer (session.insert name (.buffer new))) :
    script.Keeps session :=
  Keeps.put (.buffer new) sound found (Object.sound_unpaid trivial rfl rfl) rfl puts

theorem patchBuffer_keeps (sound : session.Sound) (name : String) (position : Nat)
    (bytes : List UInt8) : (Step.patchBuffer name position bytes).script.Keeps session := by
  refine (buffer_reads name).bind fun buffer found => ?_
  by_cases outside : buffer.length < position + bytes.length
  · rw [if_pos outside]
    exact unusable_ends
  · rw [if_neg outside]
    exact put_buffer_keeps sound found _ ⟨_, rfl⟩

theorem resizeBuffer_keeps (sound : session.Sound) (name : String) (size : Nat) :
    (Step.resizeBuffer name size).script.Keeps session :=
  (buffer_reads name).bind fun _ found => put_buffer_keeps sound found _ ⟨_, rfl⟩

theorem write_keeps (sound : session.Sound) (name buffer : String) (position : Nat)
    (settings : Settings) : (Step.write name buffer position settings).script.Keeps session := by
  refine (buffer_reads buffer).bind fun bytes found => ?_
  refine (object_reads name).bind fun object _ => ?_
  cases object with
  | tablet tablet =>
    exact (ofResult_reads _).bind fun written _ => put_buffer_keeps sound found written.1 ⟨_, rfl⟩
  | parameter parameter =>
    exact (ofResult_reads _).bind fun written _ => put_buffer_keeps sound found written.1 ⟨_, rfl⟩
  | _ => exact unusable_ends

end TabletRecords.Session
