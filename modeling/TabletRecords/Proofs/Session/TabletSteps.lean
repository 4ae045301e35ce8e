import TabletRecords.Proofs.Session.Making
import TabletRecords.Proofs.Session.Requests

/-!
Steps on tablets and transfer parameters. Each of them keeps a session sound, for the sequences that
its objects supply name no column twice.
-/
namespace TabletRecords.Session

open Arena (ArenaId Ledger)
open Charging (Accounts)
open Outcome Script

variable {session : Session} {name : String}

theorem InitSource.Asks.isValid_autoincrement {source : InitSource} {request : InitRequest}
    (asks : source.Asks session request) (sound : session.Sound) :
    request.body.autoincrement.isValid := by
  rcases asks.offers_autoincrement with empty | ⟨name, object, found, has⟩
  · rw [empty]
    rfl
  · exact (sound.find? found).isValid_autoincrement has

theorem makeTablet_keeps (sound : session.Sound) (target : String) :
    (Step.makeTablet target).script.Keeps session :=
  Keeps.store_unpaid sound (.tablet .uninitialized) trivial rfl rfl target

theorem initTablet_keeps (sound : session.Sound) (name arena : String) (source : InitSource) :
    (Step.initTablet name arena source).script.Keeps session := by
  refine (tablet_reads name).bind fun tablet found => ?_
  refine (arena_reads sound arena).bind fun arena opened => ?_
  refine (initRequest_reads source).bind fun request asks => ?_
  refine Keeps.charging_put .tablet sound found (Tablet.init_accounts tablet arena request) ?_
    fun _ _ => ⟨_, rfl⟩
  intro result after done posting
  have valid := Tablet.sound_of_init done (asks.isValid_autoincrement sound)
  obtain ⟨-, rfl, -⟩ := Tablet.init_eq_ok_iff.mp done
  exact (Object.paidBy_tablet valid rfl).sound (Nat.lt_of_lt_of_le opened posting.next_le)

theorem updateTablet_keeps (sound : session.Sound) (name parameter : String) :
    (Step.updateTablet name parameter).script.Keeps session := by
  refine (tablet_reads name).bind fun tablet found => ?_
  refine (parameter_reads parameter).bind fun parameter found' => ?_
  refine Keeps.charging_put .tablet sound found
    (Tablet.update_accounts tablet parameter.snapshot) ?_ fun _ _ => ⟨_, rfl⟩
  intro result after done posting
  have same := sound.find? found
  have valid := Tablet.Sound.update same.valid done (sound.find? found').valid
  obtain ⟨old, arena, rfl, -, rfl, -⟩ := Tablet.update_eq_ok_iff.mp done
  exact (Object.paidBy_tablet valid rfl).sound (Nat.lt_of_lt_of_le (same.opened arena rfl) posting.next_le)

theorem updateCreateScn_keeps (sound : session.Sound) (name : String) (createScn : Scn) :
    (Step.updateCreateScn name createScn).script.Keeps session := by
  refine (tablet_reads name).bind fun tablet found => ?_
  refine (ofResult_reads _).bind fun result done => ?_
  have same := sound.find? found
  refine Keeps.put (.tablet result) sound found ?_ (Tablet.charges_updateCreateScn done) ⟨_, rfl⟩
  have valid := Tablet.Sound.updateCreateScn same.valid done
  obtain ⟨old, arena, rfl, -, rfl⟩ := Tablet.updateCreateScn_eq_ok_iff.mp done
  exact same.edit valid rfl rfl fun _ h => by cases h

theorem readTablet_keeps (sound : session.Sound) (name arena buffer : String) (position : Nat)
    (settings : Settings) :
    (Step.readTablet name arena buffer position settings).script.Keeps session := by
  refine (tablet_reads name).bind fun tablet found => ?_
  refine (arena_reads sound arena).bind fun arena opened => ?_
  refine (buffer_reads buffer).bind fun bytes _ => ?_
  refine Keeps.charging_put (fun read : Tablet × Nat => .tablet read.1) sound found
    (Tablet.read_accounts tablet settings arena bytes position) ?_ fun _ _ => ⟨_, rfl⟩
  rintro ⟨result, position'⟩ after done posting
  have valid := Tablet.sound_of_read done
  obtain ⟨-, header, body, _, -, -, rfl, -⟩ := Tablet.read_eq_ok_iff.mp done
  exact (Object.paidBy_tablet valid rfl).sound (Nat.lt_of_lt_of_le opened posting.next_le)

theorem put_parameter_keeps {α β : Type} {operation : Charging α}
    {parameter : TransferParameter} (wrap : α → TransferParameter) {finish : α → Script β}
    (sound : session.Sound) (found : session.find? name = some (.parameter parameter))
    (accounts : Accounts operation (fun value => (wrap value).held.charges Snapshot.format)
      (parameter.held.charges Snapshot.format))
    (made : ∀ before value after, operation before = .ok value after →
      ∃ snapshot, wrap value = { parameter with snapshot } ∧ snapshot.autoincrement.isValid)
    (puts : ∀ value session, ∃ answer,
      finish value session = .ok answer (session.insert name (.parameter (wrap value)))) :
    (charging operation >>= finish).Keeps session := by
  refine Keeps.charging_put (fun value => .parameter (wrap value)) sound found accounts ?_ puts
  intro value after done posting
  have owns := ((sound.find? found).owns parameter rfl).mono posting
  obtain ⟨snapshot, same, valid⟩ := made _ _ _ done
  rw [same]
  exact Object.sound_parameter valid ⟨owns.opened, owns.limit⟩

theorem reset_keeps (sound : session.Sound) (name : String) :
    (Step.reset name).script.Keeps session := by
  refine (object_reads name).bind fun object found => ?_
  cases object with
  | tablet tablet =>
    refine Keeps.charging_put .tablet sound found (Tablet.reset_accounts tablet) ?_
      fun _ _ => ⟨_, rfl⟩
    intro result after done posting
    obtain ⟨rfl, -⟩ := Tablet.reset_eq_ok_iff.mp done
    exact Object.sound_unpaid trivial rfl rfl
  | parameter parameter =>
    refine put_parameter_keeps id sound found (TransferParameter.reset_accounts parameter) ?_
      fun _ _ => ⟨_, rfl⟩
    intro before result after done
    obtain ⟨rfl, -⟩ := TransferParameter.reset_eq_ok_iff.mp done
    exact ⟨_, rfl, rfl⟩
  | _ => exact unusable_ends

theorem charges_editParameter (edit : SnapshotEdit) (parameter : TransferParameter) :
    (Object.parameter { parameter with snapshot := edit.apply parameter.snapshot }).charges =
      (Object.parameter parameter).charges := by
  have charges : Snapshot.format.charges (edit.apply parameter.snapshot) =
      Snapshot.format.charges parameter.snapshot := by
    rw [Snapshot.charges_eq, Snapshot.charges_eq]
    rfl
  exact congrArg (List.map (parameter.arena, ·)) charges

theorem editParameter_keeps (sound : session.Sound) (name : String) (edit : SnapshotEdit) :
    (Step.editParameter name edit).script.Keeps session := by
  refine (parameter_reads name).bind fun parameter found => ?_
  have same := sound.find? found
  have owns := same.owns parameter rfl
  exact Keeps.put (.parameter { parameter with snapshot := edit.apply parameter.snapshot })
    sound found (Object.sound_parameter same.valid ⟨owns.opened, owns.limit⟩)
    (charges_editParameter edit parameter) ⟨_, rfl⟩

theorem Object.attach_cases {object : Object} {parameter : TransferParameter}
    {kind? : Option ValueKind} {operation : Charging TransferParameter}
    (attaches : object.attach? parameter kind? = some operation) :
    (∃ sequence, object.autoincrement? = some sequence ∧
      operation = parameter.setAutoincrement sequence) ∨
    (∃ binding, object.binding? = some binding ∧ operation = parameter.setBinding binding) ∨
    (∃ schema, object.schema? = some schema ∧ operation = parameter.setSchema schema) ∨
    ∃ queue, object.compactions? = some queue ∧ operation = parameter.setCompactions queue := by
  obtain ⟨kind, -, attaches⟩ := Option.bind_eq_some_iff.mp attaches
  cases kind with
  | words => cases attaches
  | autoincrement =>
    obtain ⟨sequence, has, ⟨⟩⟩ := Option.bind_eq_some_iff.mp attaches
    exact .inl ⟨sequence, has, rfl⟩
  | binding =>
    obtain ⟨binding, has, ⟨⟩⟩ := Option.bind_eq_some_iff.mp attaches
    exact .inr (.inl ⟨binding, has, rfl⟩)
  | schema =>
    obtain ⟨schema, has, ⟨⟩⟩ := Option.bind_eq_some_iff.mp attaches
    exact .inr (.inr (.inl ⟨schema, has, rfl⟩))
  | compactions =>
    obtain ⟨queue, has, ⟨⟩⟩ := Option.bind_eq_some_iff.mp attaches
    exact .inr (.inr (.inr ⟨queue, has, rfl⟩))

theorem attach_accounts {parameter : TransferParameter} {object : Object} {kind? : Option ValueKind}
    {operation : Charging TransferParameter}
    (attaches : object.attach? parameter kind? = some operation) :
    Accounts operation (·.held.charges Snapshot.format)
      (parameter.held.charges Snapshot.format) := by
  rcases Object.attach_cases attaches with ⟨sequence, -, rfl⟩ | ⟨binding, -, rfl⟩ |
    ⟨schema, -, rfl⟩ | ⟨queue, -, rfl⟩
  · exact TransferParameter.setAutoincrement_accounts _ _
  · exact TransferParameter.setBinding_accounts _ _
  · exact TransferParameter.setSchema_accounts _ _
  · exact TransferParameter.setCompactions_accounts _ _

theorem eq_of_attach {parameter result : TransferParameter} {object : Object}
    {kind? : Option ValueKind} {operation : Charging TransferParameter}
    {ledger before after : Ledger} (attaches : object.attach? parameter kind? = some operation)
    (sound : object.Sound ledger) (valid : parameter.snapshot.autoincrement.isValid)
    (done : operation before = .ok result after) :
    ∃ snapshot, result = { parameter with snapshot } ∧ snapshot.autoincrement.isValid := by
  rcases Object.attach_cases attaches with ⟨sequence, has, rfl⟩ | ⟨binding, -, rfl⟩ |
    ⟨schema, -, rfl⟩ | ⟨queue, -, rfl⟩
  · obtain ⟨rfl, -⟩ := TransferParameter.setPart_eq_ok_iff.mp done
    exact ⟨_, rfl, sound.isValid_autoincrement has⟩
  · obtain ⟨rfl, -⟩ := TransferParameter.setPart_eq_ok_iff.mp done
    exact ⟨_, rfl, valid⟩
  · obtain ⟨rfl, -⟩ := TransferParameter.setPart_eq_ok_iff.mp done
    exact ⟨_, rfl, valid⟩
  · obtain ⟨rfl, -⟩ := TransferParameter.setPart_eq_ok_iff.mp done
    exact ⟨_, rfl, valid⟩

theorem attach_keeps (sound : session.Sound) (name part : String) (kind? : Option ValueKind) :
    (Step.attach name part kind?).script.Keeps session := by
  refine (parameter_reads name).bind fun parameter found => ?_
  refine (want_reads part _).bind fun operation attached => ?_
  obtain ⟨object, found', attaches⟩ := attached
  refine put_parameter_keeps id sound found (attach_accounts attaches) ?_ fun _ _ => ⟨_, rfl⟩
  intro before result after done
  exact eq_of_attach attaches (sound.find? found') (sound.find? found).valid done

theorem assign_keeps (sound : session.Sound) (name source : String) :
    (Step.assign name source).script.Keeps session := by
  refine (parameter_reads name).bind fun parameter found => ?_
  refine (parameter_reads source).bind fun source found' => ?_
  refine put_parameter_keeps id sound found (TransferParameter.assign_accounts parameter source) ?_
    fun _ _ => ⟨_, rfl⟩
  intro before result after done
  obtain ⟨-, done⟩ := TransferParameter.assign_eq_ok_iff.mp done
  obtain ⟨rfl, -⟩ := TransferParameter.setPart_eq_ok_iff.mp done
  exact ⟨_, rfl, (sound.find? found').valid⟩

theorem readParameter_keeps (sound : session.Sound) (name buffer : String) (position : Nat) :
    (Step.readParameter name buffer position).script.Keeps session := by
  refine (parameter_reads name).bind fun parameter found => ?_
  refine (buffer_reads buffer).bind fun bytes _ => ?_
  refine put_parameter_keeps Prod.fst sound found
    (TransferParameter.read_accounts parameter bytes position) ?_ fun _ _ => ⟨_, rfl⟩
  rintro before ⟨result, position'⟩ after done
  obtain ⟨_, snapshot, _, -, ⟨legal, -⟩, rfl, -⟩ := TransferParameter.read_eq_ok_iff.mp done
  exact ⟨snapshot, rfl, legal.autoincrement.isValid⟩

theorem makeParameter_keeps (sound : session.Sound) (target : String) (settings : Settings) :
    (Step.makeParameter target settings).script.Keeps session := by
  refine Keeps.charging_store sound (TransferParameter.ofSnapshot_accounts settings {}) ?_ target
  intro parameter after done _
  have owns := TransferParameter.owns_of_ofSnapshot done
  obtain ⟨_, _, rfl, -⟩ := TransferParameter.ofSnapshot_eq_ok_iff.mp done
  exact Object.sound_parameter rfl owns

theorem sendTablet_keeps (sound : session.Sound) (target tablet schema compactions : String) :
    (Step.sendTablet target tablet schema compactions).script.Keeps session := by
  refine (tablet_reads tablet).bind fun tablet found => ?_
  refine (want_reads schema _).bind fun schema _ => ?_
  refine (want_reads compactions _).bind fun compactions _ => ?_
  refine Keeps.charging_store sound
    (TransferParameter.ofTablet_accounts tablet schema compactions) ?_ target
  intro parameter after done _
  obtain ⟨descriptor, arena, rfl, -, made⟩ := TransferParameter.ofTablet_eq_ok_iff.mp done
  have owns := TransferParameter.owns_of_ofSnapshot made
  have valid : descriptor.Sound := (sound.find? found).valid
  obtain ⟨_, _, rfl, -⟩ := TransferParameter.ofSnapshot_eq_ok_iff.mp made
  exact Object.sound_parameter valid.autoincrement owns

theorem makePlaceholder_keeps (sound : session.Sound) (target : String) (name : TabletName)
    (dataTabletId : TabletId) (createScn : Scn) :
    (Step.makePlaceholder target name dataTabletId createScn).script.Keeps session := by
  refine Keeps.charging_store sound
    (TransferParameter.restorePlaceholder_accounts name dataTabletId createScn) ?_ target
  intro parameter after done _
  obtain ⟨-, made⟩ := TransferParameter.restorePlaceholder_eq_ok_iff.mp done
  have owns := TransferParameter.owns_of_ofSnapshot made
  obtain ⟨_, _, rfl, -⟩ := TransferParameter.ofSnapshot_eq_ok_iff.mp made
  exact Object.sound_parameter rfl owns

end TabletRecords.Session
