import TabletRecords.Proofs.Session.History
import TabletRecords.Proofs.Parameter.Transfer

/-!
Accounting. After every run, the bytes used of an arena are the memory of the lists that the objects
of the session keep there. No arena has passed its limit or has been overdrawn, and limits do not
change. The lists of a tablet in use are kept in the arena that it was initialized or read with, and
those of a parameter in the arena that was opened for it.
-/
namespace TabletRecords.Session

open Arena (ArenaId Ledger heldAt heldAt_append total)

variable {session : Session} {name : String} {object : Object} {arena : ArenaId}

def memoryAt (session : Session) (arena : ArenaId) : Nat :=
  total ((session.objects.filter (·.2.payer? = some arena)).map (·.2.memory))

theorem Object.heldAt_charges (arena : ArenaId) (object : Object) :
    heldAt arena object.charges = if object.payer? = some arena then object.memory else 0 := by
  have held : ∀ {α : Type} {format : Wire.Format α} (held : Held α),
      heldAt arena (held.charges format) =
        if held.payer = some arena then format.footprint held.value else 0 := by
    rintro α format ⟨value, _ | payer⟩
    · rfl
    · rw [Held.heldAt_charges]
      simp
  cases object with
  | arena id => simp [charges, memory]
  | charge payer size => simp [charges, memory, payer?, Arena.heldAt_cons]
  | words value =>
    have footprint : wordsFormat.footprint value.value = value.value.length * 8 :=
      Arena.total_listCharges _ _
    rw [memory, ← footprint]
    exact held value
  | autoincrement value =>
    rw [memory, ← Autoincrement.Sequence.footprint_eq]
    exact held value
  | binding value =>
    rw [memory, ← Binding.footprint_eq]
    exact held value
  | schema value =>
    rw [memory, ← StorageSchema.footprint_eq]
    exact held value
  | compactions value =>
    rw [memory, ← CompactionQueue.footprint_eq]
    exact held value
  | tablet t =>
    rw [memory, ← DescriptorBody.footprint_eq]
    exact held t.held
  | parameter p =>
    rw [memory, ← Snapshot.footprint_eq_lengths]
    exact held p.held
  | buffer bytes => simp [charges, memory]

theorem heldAt_charges_eq_memoryAt (session : Session) (arena : ArenaId) :
    heldAt arena session.charges = session.memoryAt arena := by
  unfold charges memoryAt
  induction session.objects with
  | nil => rfl
  | cons entry entries ih =>
    rw [List.flatMap_cons, heldAt_append, ih, Object.heldAt_charges]
    by_cases paid : entry.2.payer? = some arena
    · rw [if_pos paid, List.filter_cons_of_pos (by simpa using paid), List.map_cons, Arena.total_cons]
    · rw [if_neg paid, List.filter_cons_of_neg (by simpa using paid), Nat.zero_add]

def Object.tabletArena? : Object → Option ArenaId
  | tablet t => t.arena?
  | _ => none

def Object.parameterArena? : Object → Option ArenaId
  | parameter p => some p.arena
  | _ => none

/-- A step gives an arena to a tablet that has none: it initializes or reads the tablet with it. -/
inductive Step.GivesArena (session : Session) : Step → String → ArenaId → Prop
  | initTablet {name arena : String} {payer : ArenaId} (source : InitSource)
      (fresh : session.find? name = some (.tablet .uninitialized))
      (named : session.Offers arena Object.arena? payer) :
      GivesArena session (.initTablet name arena source) name payer
  | readTablet {name arena : String} {payer : ArenaId} (buffer : String) (position : Nat)
      (settings : Settings) (fresh : session.find? name = some (.tablet .uninitialized))
      (named : session.Offers arena Object.arena? payer) :
      GivesArena session (.readTablet name arena buffer position settings) name payer

inductive Step.OpensArena (session : Session) : Step → String → ArenaId → Prop
  | makeParameter (target : String) (settings : Settings) :
      OpensArena session (.makeParameter target settings) target ⟨session.ledger.next⟩
  | sendTablet (target tablet schema compactions : String) :
      OpensArena session (.sendTablet target tablet schema compactions) target ⟨session.ledger.next⟩
  | makePlaceholder (target : String) (name : TabletName) (dataTabletId : TabletId)
      (createScn : Scn) :
      OpensArena session (.makePlaceholder target name dataTabletId createScn) target
        ⟨session.ledger.next⟩

theorem Object.tabletArena?_of_isValue (value : object.isValue) : object.tabletArena? = none := by
  cases object with
  | words | autoincrement | binding | schema | compactions => rfl
  | _ => cases value

theorem Object.parameterArena?_of_isValue (value : object.isValue) :
    object.parameterArena? = none := by
  cases object with
  | words | autoincrement | binding | schema | compactions => rfl
  | _ => cases value

theorem givesArena_of_step (sound : session.Sound) {step : Step}
    (keeps : (session.step step).2.Offers name Object.tabletArena? arena) :
    session.Offers name Object.tabletArena? arena ∨ step.GivesArena session name arena := by
  obtain ⟨object, stored, has⟩ := keeps
  rcases puts_of_find?_step sound stored with old | puts
  · exact .inl ⟨object, old, has⟩
  · cases puts with
    | copy target named found copies done =>
      rw [Object.tabletArena?_of_isValue (Object.isValue_of_copy copies done)] at has
      cases has
    | decode target named done =>
      rw [Object.tabletArena?_of_isValue (Object.isValue_of_decode done)] at has
      cases has
    | initTablet found named asks done =>
      obtain ⟨⟨rfl, -⟩, rfl, -⟩ := Tablet.init_eq_ok_iff.mp done
      cases has
      exact .inr (.initTablet _ found named)
    | updateTablet found found' done =>
      obtain ⟨old, payer, rfl, -, rfl, -⟩ := Tablet.update_eq_ok_iff.mp done
      cases has
      exact .inl ⟨_, found, rfl⟩
    | updateCreateScn found done =>
      obtain ⟨old, payer, rfl, -, rfl⟩ := Tablet.updateCreateScn_eq_ok_iff.mp done
      cases has
      exact .inl ⟨_, found, rfl⟩
    | resetTablet found done =>
      obtain ⟨rfl, -⟩ := Tablet.reset_eq_ok_iff.mp done
      cases has
    | readTablet found named found' done =>
      obtain ⟨rfl, _, _, _, -, -, rfl, -⟩ := Tablet.read_eq_ok_iff.mp done
      cases has
      exact .inr (.readTablet _ _ _ found named)
    | _ => cases has

theorem opensArena_of_step (sound : session.Sound) {step : Step}
    (keeps : (session.step step).2.Offers name Object.parameterArena? arena) :
    session.Offers name Object.parameterArena? arena ∨ step.OpensArena session name arena := by
  obtain ⟨object, stored, has⟩ := keeps
  rcases puts_of_find?_step sound stored with old | puts
  · exact .inl ⟨object, old, has⟩
  · cases puts with
    | copy target named found copies done =>
      rw [Object.parameterArena?_of_isValue (Object.isValue_of_copy copies done)] at has
      cases has
    | decode target named done =>
      rw [Object.parameterArena?_of_isValue (Object.isValue_of_decode done)] at has
      cases has
    | editParameter edit found =>
      cases has
      exact .inl ⟨_, found, rfl⟩
    | resetParameter found done =>
      obtain ⟨rfl, -⟩ := TransferParameter.reset_eq_ok_iff.mp done
      cases has
      exact .inl ⟨_, found, rfl⟩
    | makeParameter target done =>
      obtain ⟨_, -, rfl, -⟩ := TransferParameter.ofSnapshot_eq_ok_iff.mp done
      cases has
      exact .inr (.makeParameter _ _)
    | attach found found' attaches done =>
      obtain ⟨_, rfl, -⟩ :=
        eq_of_attach attaches (sound.find? found') (sound.find? found).valid done
      cases has
      exact .inl ⟨_, found, rfl⟩
    | assign found found' done =>
      obtain ⟨-, done⟩ := TransferParameter.assign_eq_ok_iff.mp done
      obtain ⟨rfl, -⟩ := TransferParameter.setPart_eq_ok_iff.mp done
      cases has
      exact .inl ⟨_, found, rfl⟩
    | sendTablet target found offered offered' done =>
      obtain ⟨_, _, -, -, made⟩ := TransferParameter.ofTablet_eq_ok_iff.mp done
      obtain ⟨_, -, rfl, -⟩ := TransferParameter.ofSnapshot_eq_ok_iff.mp made
      cases has
      exact .inr (.sendTablet _ _ _ _)
    | makePlaceholder target done =>
      obtain ⟨-, made⟩ := TransferParameter.restorePlaceholder_eq_ok_iff.mp done
      obtain ⟨_, -, rfl, -⟩ := TransferParameter.ofSnapshot_eq_ok_iff.mp made
      cases has
      exact .inr (.makePlaceholder _ _ _ _)
    | readParameter found found' done =>
      obtain ⟨_, _, _, -, -, rfl, -⟩ := TransferParameter.read_eq_ok_iff.mp done
      cases has
      exact .inl ⟨_, found, rfl⟩
    | _ => cases has

def Apart (session : Session) : Prop :=
  ∀ name other arena, session.Offers name Object.parameterArena? arena →
    session.Offers other Object.parameterArena? arena → name = other

theorem Step.OpensArena.unopened {step : Step} (opens : step.OpensArena session name arena) :
    arena = ⟨session.ledger.next⟩ := by
  cases opens <;> rfl

theorem Step.OpensArena.unique {step : Step} {other : String} {arena' : ArenaId}
    (opens : step.OpensArena session name arena) (opens' : step.OpensArena session other arena') :
    name = other := by
  cases opens <;> cases opens' <;> rfl

theorem Sound.opened_of_offers (sound : session.Sound)
    (offers : session.Offers name Object.parameterArena? arena) :
    arena.index < session.ledger.next := by
  obtain ⟨object, found, has⟩ := offers
  cases object with
  | parameter p =>
    cases has
    exact ((sound.find? found).owns p rfl).opened
  | _ => cases has

theorem Apart.step (apart : session.Apart) (sound : session.Sound) (step : Step) :
    (session.step step).2.Apart := by
  intro name other arena offers offers'
  -- An arena that the step opens is the next one, and no parameter can have had it before.
  rcases opensArena_of_step sound offers with old | opens
  · rcases opensArena_of_step sound offers' with old' | opens'
    · exact apart name other arena old old'
    · rw [opens'.unopened] at old
      exact absurd (sound.opened_of_offers old) (Nat.lt_irrefl _)
  · rcases opensArena_of_step sound offers' with old' | opens'
    · rw [opens.unopened] at old'
      exact absurd (sound.opened_of_offers old') (Nat.lt_irrefl _)
    · exact opens.unique opens'

theorem Apart.run (apart : session.Apart) (sound : session.Sound) (steps : List Step) :
    (session.run steps).Apart := by
  induction steps generalizing session with
  | nil => exact apart
  | cons step steps ih => exact ih (apart.step sound step) (sound.step step)

theorem apart_empty : Apart {} := by
  rintro name other arena ⟨object, found, -⟩
  cases found

theorem Reached.apart (reached : session.Reached) : session.Apart := by
  obtain ⟨steps, rfl⟩ := reached
  exact apart_empty.run sound_empty steps

theorem Object.payer_of_mem_charges {payer : ArenaId} (paid : object.payer? = some payer) :
    ∀ charge ∈ object.charges, charge.1 = payer := by
  intro charge mem
  rw [payer?_of_mem_charges mem] at paid
  exact Option.some.inj paid

/-- The accounts balance after every run, whichever of its steps fail. What is used of an arena is
the memory that the objects of the session have there; it is within the limit, which stays what it
was when the arena was opened, and no more has ever been given back than was held. Every object with
lists has an arena that pays for them: for a tablet in use it is the one that it was initialized or
read with, since it was, and for a parameter the one that was opened for it, under its own limit. -/
theorem accounts_of_run (steps : List Step) :
    (∀ arena, (run {} steps).ledger.used arena = (run {} steps).memoryAt arena ∧
      (run {} steps).ledger.used arena ≤ ((run {} steps).ledger.account arena).limit ∧
      ((run {} steps).ledger.account arena).overdrawn = false) ∧
    (∀ before later, steps = before ++ later →
      ∀ arena : ArenaId, arena.index < (run {} before).ledger.next →
        ((run {} steps).ledger.account arena).limit =
          ((run {} before).ledger.account arena).limit) ∧
    (∀ name object, (run {} steps).find? name = some object → object.memory ≠ 0 →
      ∃ arena, object.payer? = some arena ∧ arena.index < (run {} steps).ledger.next) ∧
    (∀ name descriptor arena,
      (run {} steps).find? name = some (.tablet (.initialized descriptor arena)) →
        (∀ charge ∈ (Object.tablet (.initialized descriptor arena)).charges, charge.1 = arena) ∧
        Since {} steps (fun session step => step.GivesArena session name arena)
          (fun session => session.Offers name Object.tabletArena? arena)) ∧
    ∀ name parameter, (run {} steps).find? name = some (.parameter parameter) →
      (∀ charge ∈ (Object.parameter parameter).charges, charge.1 = parameter.arena) ∧
      ((run {} steps).ledger.account parameter.arena).limit = parameter.settings.arenaLimit ∧
      Since {} steps (fun session step => step.OpensArena session name parameter.arena)
        (fun session => session.Offers name Object.parameterArena? parameter.arena) := by
  have sound := sound_empty.run steps
  refine ⟨?_, ?_, ?_, ?_, ?_⟩
  · intro arena
    refine ⟨?_, sound.within arena, sound.solvent arena⟩
    rw [sound.balanced, heldAt_charges_eq_memoryAt]
  · intro before later split arena opened
    rw [split, run_append]
    exact ((sound_empty.run before).continues_run later).limit arena opened
  · intro name object found lists
    have same := sound.find? found
    cases paid : object.payer? with
    | none => exact absurd (same.unpaid paid) lists
    | some arena => exact ⟨arena, rfl, same.opened arena paid⟩
  · intro name descriptor arena found
    refine ⟨Object.payer_of_mem_charges rfl, ?_⟩
    exact since_of_offers (fun _ _ sound => givesArena_of_step sound) ⟨_, found, rfl⟩
  · intro name parameter found
    have owns := (sound.find? found).owns parameter rfl
    refine ⟨Object.payer_of_mem_charges rfl, owns.limit, ?_⟩
    exact since_of_offers (fun _ _ sound => opensArena_of_step sound) ⟨_, found, rfl⟩

/-- In the first arena of this run are a sequence, a binding and a schema, and what the later
generation of the tablet has of the first two; the second arena is the one of the parameter. -/
theorem accounts_of_run_sending :
    (run {} TransferParameter.sending).ledger.used ⟨0⟩ = 16 + 8 + 32 + 24 ∧
      (run {} TransferParameter.sending).ledger.used ⟨1⟩ = 24 + 32 ∧
      ((run {} TransferParameter.sending).ledger.account ⟨1⟩).limit = 67108864 ∧
      Since {} TransferParameter.sending (fun session step => step.GivesArena session "u" ⟨0⟩)
        (fun session => session.Offers "u" Object.tabletArena? ⟨0⟩) := by
  obtain ⟨balanced, -, -, tablets, parameters⟩ := accounts_of_run TransferParameter.sending
  obtain ⟨-, since⟩ := tablets "u" Tablet.successor.descriptor ⟨0⟩ rfl
  obtain ⟨-, limit, -⟩ := parameters "p" TransferParameter.sentSuccessor rfl
  refine ⟨(balanced ⟨0⟩).1.trans ?_, (balanced ⟨1⟩).1.trans ?_, limit, since⟩
  · rfl
  · rfl

end TabletRecords.Session
