import TabletRecords.Proofs.Session.Changes
import TabletRecords.Proofs.Tablet.Reachable

/-!
Failures. An operation on a tablet or on a transfer parameter that fails leaves no trace: what was
charged before it failed is released, and the session keeps the objects that it has. Nothing is
needed of the session for this. Its objects may be unsound and its accounts overdrawn.
-/
namespace TabletRecords

open Arena (ArenaId)
open Charging (Restores)
open Outcome (bind_eq_of_error bind_eq_of_ok)

namespace Session

open Script

variable {session : Session}

def Script.Traceless {α : Type} (script : Script α) (session : Session) : Prop :=
  script.Ends session fun _ _ => True

inductive Step.OnTablet (name : String) : Step → Prop
  | init (arena : String) (source : InitSource) : OnTablet name (.initTablet name arena source)
  | read (arena buffer : String) (position : Nat) (settings : Settings) :
      OnTablet name (.readTablet name arena buffer position settings)
  | update (parameter : String) : OnTablet name (.updateTablet name parameter)
  | updateCreateScn (createScn : Scn) : OnTablet name (.updateCreateScn name createScn)
  | write (buffer : String) (position : Nat) (settings : Settings) :
      OnTablet name (.write name buffer position settings)

inductive Step.OnParameter (name : String) : Step → Prop
  | assign (source : String) : OnParameter name (.assign name source)
  | attach (part : String) (kind? : Option ValueKind) : OnParameter name (.attach name part kind?)
  | read (buffer : String) (position : Nat) : OnParameter name (.readParameter name buffer position)
  | write (buffer : String) (position : Nat) (settings : Settings) :
      OnParameter name (.write name buffer position settings)

theorem write_traceless (name buffer : String) (position : Nat) (settings : Settings) :
    (Step.write name buffer position settings).script.Traceless session := by
  refine (buffer_reads buffer).bind fun bytes _ => ?_
  refine (object_reads name).bind fun object _ => ?_
  cases object with
  | tablet tablet => exact (ofResult_reads _).bind fun written _ => .of_ok rfl trivial
  | parameter parameter => exact (ofResult_reads _).bind fun written _ => .of_ok rfl trivial
  | _ => exact unusable_ends

theorem Step.OnTablet.traceless {name : String} {step : Step} (works : step.OnTablet name) :
    step.script.Traceless session := by
  cases works with
  | init arena source =>
    refine (tablet_reads name).bind fun tablet _ => ?_
    refine (arena_offers arena).bind fun arena _ => ?_
    refine (initRequest_reads source).bind fun request _ => ?_
    exact Ends.charging (Tablet.init_accounts tablet arena request).restores
      fun _ _ _ => ⟨_, _, rfl, trivial⟩
  | read arena buffer position settings =>
    refine (tablet_reads name).bind fun tablet _ => ?_
    refine (arena_offers arena).bind fun arena _ => ?_
    refine (buffer_reads buffer).bind fun bytes _ => ?_
    exact Ends.charging (Tablet.read_accounts tablet settings arena bytes position).restores
      fun _ _ _ => ⟨_, _, rfl, trivial⟩
  | update parameter =>
    refine (tablet_reads name).bind fun tablet _ => ?_
    refine (parameter_reads parameter).bind fun parameter _ => ?_
    exact Ends.charging (Tablet.update_accounts tablet parameter.snapshot).restores
      fun _ _ _ => ⟨_, _, rfl, trivial⟩
  | updateCreateScn createScn =>
    refine (tablet_reads name).bind fun tablet _ => ?_
    exact (ofResult_reads _).bind fun result _ => .of_ok rfl trivial
  | write buffer position settings => exact write_traceless name buffer position settings

theorem Step.OnParameter.traceless {name : String} {step : Step} (works : step.OnParameter name) :
    step.script.Traceless session := by
  cases works with
  | assign source =>
    refine (parameter_reads name).bind fun parameter _ => ?_
    refine (parameter_reads source).bind fun source _ => ?_
    exact Ends.charging (TransferParameter.assign_accounts parameter source).restores
      fun _ _ _ => ⟨_, _, rfl, trivial⟩
  | attach part kind? =>
    refine (parameter_reads name).bind fun parameter _ => ?_
    refine (want_reads part _).bind fun operation attached => ?_
    obtain ⟨object, -, attaches⟩ := attached
    exact Ends.charging (attach_accounts attaches).restores fun _ _ _ => ⟨_, _, rfl, trivial⟩
  | read buffer position =>
    refine (parameter_reads name).bind fun parameter _ => ?_
    refine (buffer_reads buffer).bind fun bytes _ => ?_
    exact Ends.charging (TransferParameter.read_accounts parameter bytes position).restores
      fun _ _ _ => ⟨_, _, rfl, trivial⟩
  | write buffer position settings => exact write_traceless name buffer position settings

section

variable {name bufferName : String} {bytes : List UInt8} {position : Nat} {fault : Fault}

theorem step_readTablet_eq_error {arenaName : String} {tablet : Tablet} {arena : ArenaId}
    {settings : Settings} (target : session.find? name = some (.tablet tablet))
    (payer : (session.find? arenaName).bind Object.arena? = some arena)
    (source : session.find? bufferName = some (.buffer bytes))
    (failed : tablet.read settings arena bytes position session.ledger =
      .error fault session.ledger) :
    session.step (.readTablet name arenaName bufferName position settings) =
      (.error (.fault fault), session) := by
  have charged := charging_eq_error_iff.mpr ⟨fault, session.ledger, failed, rfl, rfl⟩
  have stopped : (Step.readTablet name arenaName bufferName position settings).script session =
      .error (.fault fault) session := by
    refine (bind_eq_of_ok (want_eq_ok ?_)).trans ((bind_eq_of_ok (want_eq_ok payer)).trans
      ((bind_eq_of_ok (want_eq_ok ?_)).trans (bind_eq_of_error charged)))
    · rw [target]
      rfl
    · rw [source]
      rfl
  rw [step, stopped]

theorem step_readParameter_eq_error {parameter : TransferParameter}
    (target : session.find? name = some (.parameter parameter))
    (source : session.find? bufferName = some (.buffer bytes))
    (failed : parameter.read bytes position session.ledger = .error fault session.ledger) :
    session.step (.readParameter name bufferName position) = (.error (.fault fault), session) := by
  have charged := charging_eq_error_iff.mpr ⟨fault, session.ledger, failed, rfl, rfl⟩
  have stopped : (Step.readParameter name bufferName position).script session =
      .error (.fault fault) session := by
    refine (bind_eq_of_ok (want_eq_ok ?_)).trans ((bind_eq_of_ok (want_eq_ok ?_)).trans
      (bind_eq_of_error charged))
    · rw [target]
      rfl
    · rw [source]
      rfl
  rw [step, stopped]

end

/-- Failed operations on a tablet leave no trace, for whatever reason they fail. No operation leaves
anything in the accounts, which it may have charged before it failed; and of a step that fails
nothing comes out but the error. So the tablet, the buffer and all accounts are what they were, and
there is no other position to go on from. -/
theorem step_tablet_of_error :
    (∀ tablet : Tablet,
      (∀ arena request, Restores (tablet.init arena request)) ∧
      (∀ settings arena buffer position, Restores (tablet.read settings arena buffer position)) ∧
      ∀ snapshot, Restores (tablet.update snapshot)) ∧
    ∀ (session : Session) (name : String) (step : Step) (error : StepError), step.OnTablet name →
      (session.step step).1 = .error error → session.step step = (.error error, session) := by
  constructor
  · intro tablet
    refine ⟨?_, ?_, ?_⟩
    · intro arena request
      exact (Tablet.init_accounts tablet arena request).restores
    · intro settings arena buffer position
      exact (Tablet.read_accounts tablet settings arena buffer position).restores
    · intro snapshot
      exact (Tablet.update_accounts tablet snapshot).restores
  · intro session name step error works failed
    exact step_eq_of_error works.traceless failed

/-- A run that ends with a blank tablet, and with an arena that has room for the sequence of
`Tablet.successor` but not for its hidden tablet. -/
def crowding : List Step :=
  Tablet.succession ++ [.makeTablet "v", .openArena "small" "lists" 16]

theorem step_tablet_of_error_crowding :
    (run {} crowding).find? "v" = some (.tablet .uninitialized) ∧
      (run {} crowding).step (.initTablet "v" "small"
          (.succeed "t" 5 4 { binding? := some "b", autoincrement? := some "s" }
            none none none none none)) =
        (.error (.fault (.exhausted ⟨"lists", 8, 16, 16⟩)), run {} crowding) := by
  obtain ⟨-, steps⟩ := step_tablet_of_error
  exact ⟨rfl, steps _ "v" _ _ (.init _ _) rfl⟩

/-- Failed operations on a transfer parameter leave no trace, for whatever reason they fail, and
wherever between the lists of a snapshot its arena is exhausted. No operation leaves anything in the
accounts; and of a step that fails nothing comes out but the error. So the parameter with its
settings, what was to be copied, the buffer and all accounts are what they were, and there is no
other position to go on from. -/
theorem step_parameter_of_error :
    (∀ parameter : TransferParameter,
      (∀ source, Restores (parameter.assign source)) ∧
      (∀ autoincrement, Restores (parameter.setAutoincrement autoincrement)) ∧
      (∀ binding, Restores (parameter.setBinding binding)) ∧
      (∀ schema, Restores (parameter.setSchema schema)) ∧
      (∀ compactions, Restores (parameter.setCompactions compactions)) ∧
      ∀ buffer position, Restores (parameter.read buffer position)) ∧
    ∀ (session : Session) (name : String) (step : Step) (error : StepError), step.OnParameter name →
      (session.step step).1 = .error error → session.step step = (.error error, session) := by
  constructor
  · intro parameter
    refine ⟨?_, ?_, ?_, ?_, ?_, ?_⟩
    · intro source
      exact (TransferParameter.assign_accounts parameter source).restores
    · intro autoincrement
      exact (TransferParameter.setAutoincrement_accounts parameter autoincrement).restores
    · intro binding
      exact (TransferParameter.setBinding_accounts parameter binding).restores
    · intro schema
      exact (TransferParameter.setSchema_accounts parameter schema).restores
    · intro compactions
      exact (TransferParameter.setCompactions_accounts parameter compactions).restores
    · intro buffer position
      exact (TransferParameter.read_accounts parameter buffer position).restores
  · intro session name step error works failed
    exact step_eq_of_error works.traceless failed

/-- A run that ends with a parameter whose arena holds two hidden tablets, and has room for one list
of a placeholder's schema but not for the other. -/
def occupying : List Step :=
  [.openArena "a" "lists" 4096,
   .makeBinding "b" ⟨7⟩ ⟨8⟩ ⟨9⟩,
   .setHidden "b" "a" [⟨10⟩, ⟨11⟩],
   .makeParameter "p" { arenaLimit := 40 },
   .attach "p" "b",
   .makePlaceholder "q" ⟨⟨1⟩, ⟨7⟩⟩ ⟨7⟩ ⟨1⟩]

theorem step_parameter_of_error_occupying :
    (run {} occupying).usage = [("q", 32), ("p", 16), ("a", 16)] ∧
      (run {} occupying).step (.assign "p" "q") =
        (.error (.fault (.exhausted ⟨"migration_tablet_param", 16, 32, 40⟩)), run {} occupying) := by
  obtain ⟨-, steps⟩ := step_parameter_of_error
  exact ⟨rfl, steps _ "p" _ _ (.assign "q") rfl⟩

end Session

end TabletRecords
