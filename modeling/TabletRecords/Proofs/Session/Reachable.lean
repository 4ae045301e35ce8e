import TabletRecords.Proofs.Session.TabletSteps
import TabletRecords.Proofs.Session.ValueSteps

/-!
Steps and runs. A step that fails leaves a sound session as it was, and every step keeps a session
sound; so every session that a run reaches from the empty one is sound, whatever its steps are and
whichever of them fail.
-/
namespace TabletRecords.Session

open Script

variable {session : Session}

theorem script_keeps (sound : session.Sound) (step : Step) : step.script.Keeps session := by
  cases step with
  | openArena target label limit => exact openArena_keeps sound target label limit
  | shareArena target arena => exact shareArena_keeps sound target arena
  | sameArena first second =>
    refine (arena_reads sound first).bind fun _ _ => ?_
    exact (arena_reads sound second).bind fun _ _ => Keeps.pure sound _
  | charge target arena size =>
    refine (arena_reads sound arena).bind fun arena opened => ?_
    exact (makes_charge arena size).store sound opened target
  | free name => exact .drop sound name
  | drop name => exact .drop sound name
  | inspect name => exact (object_reads name).bind fun _ _ => Keeps.pure sound _
  | describe name => exact (object_reads name).bind fun _ _ => .of_ok rfl ⟨sound, .refl _⟩
  | json name => exact json_keeps sound name
  | compare first second =>
    refine (object_reads first).bind fun a _ => ?_
    exact (want_reads second _).bind fun _ _ => Keeps.pure sound _
  | copy target source arena kind? => exact copy_keeps sound target source arena kind?
  | decode target arena kind bytes =>
    refine (arena_reads sound arena).bind fun arena opened => ?_
    exact (makes_decode kind bytes arena).store sound opened target
  | makeWords target arena items =>
    refine (arena_reads sound arena).bind fun arena opened => ?_
    exact (makes_hold wraps_words trivial).store sound opened target
  | pushWord target source arena item => exact pushWord_keeps sound target source arena item
  | makeSequence target arena intervals => exact makeSequence_keeps sound target arena intervals
  | nextValue name columnId => exact (want_reads name _).bind fun _ _ => Keeps.pure sound _
  | withNext target source arena columnId value =>
    exact withNext_keeps sound target source arena columnId value
  | makeBinding target dataTabletId lobMetaTabletId lobPieceTabletId =>
    exact makeBinding_keeps sound target dataTabletId lobMetaTabletId lobPieceTabletId
  | setHidden name arena ids => exact setHidden_keeps sound name arena ids
  | makeSchema target arena schemaVersion compatMode rowkeyColumns columns =>
    exact makeSchema_keeps sound target arena schemaVersion compatMode rowkeyColumns columns
  | makePlaceholderSchema target arena =>
    refine (arena_reads sound arena).bind fun arena opened => ?_
    exact (makes_hold wraps_schema trivial).store sound opened target
  | checkQueryable name =>
    refine (want_reads name _).bind fun schema _ => ?_
    exact (ofResult_reads _).bind fun _ _ => Keeps.pure sound _
  | makeQueue target => exact makeQueue_keeps sound target
  | schedule name arena compaction => exact schedule_keeps sound name arena compaction
  | editBinding name edit => exact editBinding_keeps sound name edit
  | editSchema name edit => exact editSchema_keeps sound name edit
  | editQueue name edit => exact editQueue_keeps sound name edit
  | editParameter name edit => exact editParameter_keeps sound name edit
  | makeTablet target => exact makeTablet_keeps sound target
  | initTablet name arena source => exact initTablet_keeps sound name arena source
  | updateTablet name parameter => exact updateTablet_keeps sound name parameter
  | updateCreateScn name createScn => exact updateCreateScn_keeps sound name createScn
  | reset name => exact reset_keeps sound name
  | makeParameter target settings => exact makeParameter_keeps sound target settings
  | attach name part kind? => exact attach_keeps sound name part kind?
  | assign name source => exact assign_keeps sound name source
  | sendTablet target tablet schema compactions =>
    exact sendTablet_keeps sound target tablet schema compactions
  | makePlaceholder target name dataTabletId createScn =>
    exact makePlaceholder_keeps sound target name dataTabletId createScn
  | makeBuffer target bytes => exact makeBuffer_keeps sound target bytes
  | patchBuffer name position bytes => exact patchBuffer_keeps sound name position bytes
  | resizeBuffer name size => exact resizeBuffer_keeps sound name size
  | makeRecord target source => exact makeRecord_keeps sound target source
  | write name buffer position settings => exact write_keeps sound name buffer position settings
  | readTablet name arena buffer position settings =>
    exact readTablet_keeps sound name arena buffer position settings
  | readParameter name buffer position => exact readParameter_keeps sound name buffer position
  | readName buffer position =>
    refine (buffer_reads buffer).bind fun bytes _ => ?_
    exact (ofResult_reads _).bind fun _ _ => Keeps.pure sound _

theorem step_of_error (sound : session.Sound) {step : Step} {error : StepError}
    (failed : (session.step step).1 = .error error) : (session.step step).2 = session := by
  rw [step_eq_of_error (script_keeps sound step) failed]

theorem step_keeps (sound : session.Sound) (step : Step) :
    (session.step step).2.Sound ∧ session.ledger.Continues (session.step step).2.ledger := by
  have keeps := script_keeps sound step
  unfold Session.step
  cases done : step.script session with
  | ok answer after => exact keeps.ok _ _ done
  | error error after =>
    show after.Sound ∧ session.ledger.Continues after.ledger
    rw [keeps.error _ _ done]
    exact ⟨sound, .refl _⟩

theorem Sound.step (sound : session.Sound) (step : Step) : (session.step step).2.Sound :=
  (step_keeps sound step).1

/-- The session after some steps, of which some may fail. -/
def run (session : Session) (steps : List Step) : Session :=
  steps.foldl (fun session step => (session.step step).2) session

theorem run_cons (session : Session) (step : Step) (steps : List Step) :
    session.run (step :: steps) = (session.step step).2.run steps := rfl

theorem Sound.run (sound : session.Sound) (steps : List Step) : (session.run steps).Sound := by
  induction steps generalizing session with
  | nil => exact sound
  | cons step steps ih =>
    rw [run_cons]
    exact ih (sound.step step)

theorem Sound.continues_run (sound : session.Sound) (steps : List Step) :
    session.ledger.Continues (session.run steps).ledger := by
  induction steps generalizing session with
  | nil => exact .refl _
  | cons step steps ih =>
    rw [run_cons]
    exact (step_keeps sound step).2.trans (ih (sound.step step))

def Reached (session : Session) : Prop := ∃ steps, Session.run {} steps = session

theorem Reached.sound (reached : session.Reached) : session.Sound := by
  obtain ⟨steps, rfl⟩ := reached
  exact sound_empty.run steps

/-- An object is reachable when a run from the empty session ends with it under some name. -/
def Object.Reachable (object : Object) : Prop :=
  ∃ steps name, (Session.run {} steps).find? name = some object

theorem Object.Reachable.sound {object : Object} (reachable : object.Reachable) :
    ∃ session : Session, session.Sound ∧ ∃ name, session.find? name = some object := by
  obtain ⟨steps, name, found⟩ := reachable
  exact ⟨_, sound_empty.run steps, name, found⟩

end TabletRecords.Session
