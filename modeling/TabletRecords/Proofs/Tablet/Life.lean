import TabletRecords.Proofs.Tablet.Operations

/-!
The life of a tablet. From its start, or from one reset to the next, a tablet is initialized at most
once, whatever is asked of it, and from then on its names do not change.
-/
namespace TabletRecords.Tablet

open Arena (ArenaId Ledger)
open Charging Outcome

inductive Operation where
  | init (arena : ArenaId) (request : InitRequest)
  | read (settings : Settings) (arena : ArenaId) (buffer : List UInt8) (position : Nat)
  | update (snapshot : Snapshot)
  | updateCreateScn (createScn : Scn)
  | write (settings : Settings) (buffer : List UInt8) (position : Nat)
  | reset

namespace Operation

def perform (tablet : Tablet) : Operation → Charging Tablet
  | init arena request => tablet.init arena request
  | read settings arena buffer position => do
      let (result, _) ← tablet.read settings arena buffer position
      return result
  | update snapshot => tablet.update snapshot
  | updateCreateScn createScn => MonadExcept.ofExcept (tablet.updateCreateScn createScn)
  | write settings buffer position => do
      let _ ← MonadExcept.ofExcept (tablet.write settings buffer position)
      return tablet
  | reset => tablet.reset

def initializes : Operation → Bool
  | init .. | read .. => true
  | update _ | updateCreateScn _ | write .. | reset => false

def prematureFault? : Operation → Option Fault
  | init .. | read .. | reset => none
  | update _ | updateCreateScn _ => some .notInitialized
  | write .. => some (.argument .unwritableDescriptor)

variable {operation : Operation} {tablet result : Tablet} {before after : Ledger}

theorem perform_eq_initializedTwice (ready : tablet.isInitialized)
    (initializes : operation.initializes) (ledger : Ledger) :
    operation.perform tablet ledger = .error .initializedTwice ledger := by
  cases tablet with
  | uninitialized => cases ready
  | initialized descriptor payer => cases operation <;> first | rfl | cases initializes

theorem perform_eq_prematureFault {fault : Fault} (needs : operation.prematureFault? = some fault)
    (ledger : Ledger) : operation.perform uninitialized ledger = .error fault ledger := by
  cases operation <;> cases needs <;> rfl

theorem isInitialized_of_perform (done : operation.perform uninitialized before = .ok result after) :
    result.isInitialized = operation.initializes := by
  cases operation with
  | init arena request =>
    obtain ⟨-, rfl, -⟩ := init_eq_ok_iff.mp done
    rfl
  | read settings arena buffer position =>
    obtain ⟨_, _, taken, made⟩ := bind_eq_ok_iff.mp done
    cases made
    obtain ⟨-, _, _, _, -, -, made, -⟩ := read_eq_ok_iff.mp taken
    rw [made]
    rfl
  | reset =>
    rw [(reset_eq_ok_iff.mp done).1]
    rfl
  | update | updateCreateScn | write => cases done

end Operation

/-- What identifies a tablet: its two names, and whether the chain of tablets goes on after it. -/
def identity (tablet : Tablet) : TabletName × Bool :=
  (tablet.descriptor.name, tablet.descriptor.hasNextTablet)

theorem Operation.perform_initialized {operation : Operation} {tablet result : Tablet}
    {before after : Ledger} (ready : tablet.isInitialized) (going : operation ≠ .reset)
    (done : operation.perform tablet before = .ok result after) :
    result.isInitialized ∧ result.identity = tablet.identity := by
  cases operation with
  | init | read =>
    rw [perform_eq_initializedTwice ready rfl] at done
    cases done
  | update snapshot =>
    obtain ⟨old, arena, rfl, ⟨-, named, -⟩, rfl, -⟩ := update_eq_ok_iff.mp done
    exact ⟨rfl, congrArg (·, old.hasNextTablet) named.symm⟩
  | updateCreateScn createScn =>
    obtain ⟨old, arena, rfl, -, rfl⟩ := updateCreateScn_eq_ok_iff.mp (ofExcept_eq_ok_iff.mp done).1
    exact ⟨rfl, rfl⟩
  | write settings buffer position =>
    obtain ⟨_, _, -, kept⟩ := bind_eq_ok_iff.mp done
    cases kept
    exact ⟨ready, rfl⟩
  | reset => exact absurd rfl going

/-- An operation that is performed with a ledger at hand. From one event to the next the ledger may
change, since other objects are charged to the same arenas. -/
structure Event where
  ledger : Ledger
  operation : Operation

namespace Event

def outcome (event : Event) (tablet : Tablet) : EStateM.Result Fault Ledger Tablet :=
  event.operation.perform tablet event.ledger

def next (event : Event) (tablet : Tablet) : Tablet :=
  match event.outcome tablet with
  | .ok result _ => result
  | .error _ _ => tablet

def Enters (event : Event) (tablet : Tablet) : Prop :=
  event.operation.initializes ∧ ∃ result after, event.outcome tablet = .ok result after

variable {event : Event} {tablet : Tablet}

theorem next_initialized (ready : tablet.isInitialized) (going : event.operation ≠ .reset) :
    (event.next tablet).isInitialized ∧ (event.next tablet).identity = tablet.identity := by
  unfold next
  split
  · next done => exact Operation.perform_initialized ready going done
  · exact ⟨ready, rfl⟩

theorem next_of_reset (resets : event.operation = .reset) : event.next tablet = uninitialized := by
  simp only [next, outcome, resets]
  rfl

theorem isInitialized_next_uninitialized :
    (event.next uninitialized).isInitialized ↔ event.Enters uninitialized := by
  unfold next Enters
  cases done : event.outcome uninitialized with
  | ok result after =>
    rw [Operation.isInitialized_of_perform done]
    exact ⟨fun initializes => ⟨initializes, result, after, rfl⟩, And.left⟩
  | error fault after =>
    constructor
    · intro ready
      cases ready
    · rintro ⟨-, _, _, done⟩
      cases done

theorem Enters.isInitialized_next (enters : event.Enters tablet) :
    (event.next tablet).isInitialized := by
  cases tablet with
  | uninitialized => exact isInitialized_next_uninitialized.mpr enters
  | initialized descriptor payer =>
    obtain ⟨initializes, _, _, done⟩ := enters
    rw [outcome, Operation.perform_eq_initializedTwice rfl initializes] at done
    cases done

end Event

def run (tablet : Tablet) (events : List Event) : Tablet :=
  events.foldl (fun tablet event => event.next tablet) tablet

theorem run_append (tablet : Tablet) (events later : List Event) :
    run tablet (events ++ later) = run (run tablet events) later :=
  List.foldl_append

variable {tablet : Tablet} {events : List Event}

theorem run_initialized (ready : tablet.isInitialized)
    (going : ∀ event ∈ events, event.operation ≠ .reset) :
    (run tablet events).isInitialized ∧ (run tablet events).identity = tablet.identity := by
  induction events generalizing tablet with
  | nil => exact ⟨ready, rfl⟩
  | cons event events ih =>
    rw [List.forall_mem_cons] at going
    obtain ⟨ready, same⟩ := Event.next_initialized ready going.1
    obtain ⟨ready, same'⟩ := ih ready going.2
    exact ⟨ready, same'.trans same⟩

theorem run_uninitialized
    (stays : ∀ before event after, events = before ++ event :: after →
      ¬event.Enters (run uninitialized before)) : run uninitialized events = uninitialized := by
  induction events with
  | nil => rfl
  | cons event events ih =>
    -- The first event leaves the tablet blank, so the rest of the run starts as the whole does.
    have first : event.next uninitialized = uninitialized := by
      have blank := mt Event.isInitialized_next_uninitialized.mp (stays [] event events rfl)
      cases made : event.next uninitialized with
      | uninitialized => rfl
      | initialized descriptor payer => exact absurd (congrArg isInitialized made) blank
    show run (event.next uninitialized) events = uninitialized
    rw [first]
    refine ih fun before next after split => ?_
    have later := stays (event :: before) next after (congrArg (event :: ·) split)
    rwa [show run uninitialized (event :: before) = run (event.next uninitialized) before from rfl,
      first] at later

/-- Events that leave a tablet as it starts: none, or any that end with a reset. -/
def Fresh (past : List Event) : Prop :=
  past = [] ∨ ∃ before event, past = before ++ [event] ∧ event.operation = .reset

theorem Fresh.run_eq {past : List Event} (fresh : Fresh past) :
    run uninitialized past = uninitialized := by
  rcases fresh with rfl | ⟨before, event, rfl, resets⟩
  · rfl
  · rw [run_append]
    exact Event.next_of_reset resets

/-- A life of a tablet goes from the start or a reset to the next reset. At most one event
initializes the tablet in it: every later one that is there for that fails and charges nothing. From
that event on the tablet's identity stays the same; before it, what needs an initialized tablet
fails. -/
theorem life_keeps_identity {past life : List Event} (fresh : Fresh past)
    (going : ∀ event ∈ life, event.operation ≠ .reset) :
    (∀ before entry between event after, life = before ++ entry :: (between ++ event :: after) →
      entry.Enters (run uninitialized (past ++ before)) → event.operation.initializes →
      event.outcome (run uninitialized (past ++ before ++ entry :: between)) =
        .error .initializedTwice event.ledger) ∧
    (∀ before entry between after, life = before ++ entry :: (between ++ after) →
      entry.Enters (run uninitialized (past ++ before)) →
      (run uninitialized (past ++ before ++ entry :: between)).identity =
        (run uninitialized (past ++ before ++ [entry])).identity) ∧
    (∀ before event after, life = before ++ event :: after →
      (∀ earlier entry later, before = earlier ++ entry :: later →
        ¬entry.Enters (run uninitialized (past ++ earlier))) →
      ∀ fault, event.operation.prematureFault? = some fault →
      event.outcome (run uninitialized (past ++ before)) = .error fault event.ledger) := by
  simp only [run_append, fresh.run_eq]
  refine ⟨?_, ?_, ?_⟩
  · rintro before entry between event after rfl enters initializes
    refine Operation.perform_eq_initializedTwice (run_initialized enters.isInitialized_next ?_).1
      initializes _
    intro later among
    exact going later (by simp [among])
  · rintro before entry between after rfl enters
    refine (run_initialized enters.isInitialized_next ?_).2
    intro later among
    exact going later (by simp [among])
  · rintro before event after rfl stays fault needs
    rw [run_uninitialized stays]
    exact Operation.perform_eq_prematureFault needs _

def founding : Event where
  ledger := .empty
  operation := .init ⟨0⟩ (.create {
    logStreamId := ⟨1⟩
    tabletId := ⟨7⟩
    dataTabletId := ⟨7⟩
    lobMetaTabletId := ⟨8⟩
    lobPieceTabletId := ⟨9⟩
    createScn := ⟨1⟩
    snapshotVersion := 3
    compatMode := .mySql
    storeFlag := {}
    syncedSchemaVersion := 0 })

def correction : Event where
  ledger := .empty
  operation := .updateCreateScn ⟨0⟩

/-- After a reset, a life in which the tablet is corrected too early, created, corrected, and
created again. -/
theorem life_keeps_identity_founding :
    Fresh [⟨.empty, .reset⟩] ∧
      (∀ event ∈ [correction, founding, correction, founding], event.operation ≠ .reset) ∧
      correction.outcome (run uninitialized [⟨.empty, .reset⟩]) = .error .notInitialized .empty ∧
      founding.Enters (run uninitialized [⟨.empty, .reset⟩, correction]) ∧
      (run uninitialized [⟨.empty, .reset⟩, correction, founding, correction]).identity =
        (⟨⟨1⟩, ⟨7⟩⟩, false) ∧
      founding.outcome (run uninitialized [⟨.empty, .reset⟩, correction, founding, correction]) =
        .error .initializedTwice .empty := by
  have fresh : Fresh [⟨.empty, .reset⟩] := .inr ⟨[], _, rfl, rfl⟩
  have going : ∀ event ∈ [correction, founding, correction, founding], event.operation ≠ .reset := by
    simp [correction, founding]
  have enters : founding.Enters (run uninitialized [⟨.empty, .reset⟩, correction]) :=
    ⟨rfl, _, _, rfl⟩
  obtain ⟨once, keeps, before⟩ := life_keeps_identity fresh going
  refine ⟨fresh, going, ?_, enters, ?_, ?_⟩
  · refine before [] correction _ rfl ?_ _ rfl
    intro earlier entry later split
    cases earlier <;> cases split
  · exact keeps [correction] founding [correction] [founding] rfl enters
  · exact once [correction] founding [correction] founding [] rfl enters rfl

end TabletRecords.Tablet
