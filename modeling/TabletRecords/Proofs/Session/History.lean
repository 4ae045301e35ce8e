import TabletRecords.Proofs.Session.Changes

/-!
What runs pass on. A property of objects that every step passes on holds after a run, as soon as it
holds of all that the run reads from bytes; and what holds after a run, but not before it, has
lasted since a step that began it.
-/
namespace TabletRecords.Session

variable {session : Session} {name : String} {object : Object}

def Step.reads? : Step → Option String
  | decode target _ _ _ => some target
  | readTablet name _ _ _ _ => some name
  | readParameter name _ _ => some name
  | _ => none

def All (session : Session) (good : Object → Prop) : Prop :=
  ∀ name object, session.find? name = some object → good object

/-- Whatever some steps read from bytes has a property once it has been read. -/
def ReadsOnly (good : Object → Prop) : Session → List Step → Prop
  | _, [] => True
  | session, step :: steps =>
      (∀ name object, step.reads? = some name →
        (session.step step).2.find? name = some object → good object) ∧
      ReadsOnly good (session.step step).2 steps

section

variable {good : Object → Prop} {step : Step} {steps : List Step}

theorem ReadsOnly.cons (unread : step.reads? = none)
    (rest : (session.step step).2.ReadsOnly good steps) : session.ReadsOnly good (step :: steps) := by
  refine ⟨?_, rest⟩
  intro name object read
  rw [unread] at read
  cases read

theorem ReadsOnly.cons_of_reads (read : step.reads? = some name)
    (found : (session.step step).2.find? name = some object) (holds : good object)
    (rest : (session.step step).2.ReadsOnly good steps) : session.ReadsOnly good (step :: steps) := by
  refine ⟨?_, rest⟩
  intro name' object' read' found'
  rw [read] at read'
  cases read'
  rw [found] at found'
  cases found'
  exact holds

end

/-- A property is passed on when every step that does not read from bytes puts only objects that
have it, as long as all objects of the session do. -/
def PassesOn (good : Object → Prop) : Prop :=
  ∀ (session : Session) (step : Step) (name : String) (object : Object), session.Sound →
    session.All good → step.Puts session name object → step.reads? ≠ some name → good object

theorem PassesOn.all_run {good : Object → Prop} (passes : PassesOn good) (sound : session.Sound)
    (all : session.All good) {steps : List Step} (reads : session.ReadsOnly good steps) :
    (session.run steps).All good := by
  induction steps generalizing session with
  | nil => exact all
  | cons step steps ih =>
    obtain ⟨first, rest⟩ := reads
    rw [run_cons]
    apply ih (sound.step step) _ rest
    intro name object found
    rcases puts_of_find?_step sound found with old | puts
    · exact all name object old
    · by_cases read : step.reads? = some name
      · exact first name object read found
      · exact passes session step name object sound all puts read

theorem all_empty (good : Object → Prop) : All {} good := by
  intro name object found
  cases found

theorem run_append (session : Session) (before later : List Step) :
    session.run (before ++ later) = (session.run before).run later :=
  List.foldl_append

/-- In a run, a step has begun something that has lasted ever since. -/
def Since (session : Session) (steps : List Step) (begins : Session → Step → Prop)
    (lasts : Session → Prop) : Prop :=
  ∃ before step later, steps = before ++ step :: later ∧ begins (session.run before) step ∧
    ∀ done rest, later = done ++ rest → lasts (session.run (before ++ step :: done))

theorem Sound.since {begins : Session → Step → Prop} (lasts : Session → Prop)
    (began : ∀ session step, session.Sound → lasts (session.step step).2 →
      lasts session ∨ begins session step)
    (sound : session.Sound) {steps : List Step} (holds : lasts (session.run steps)) :
    (∀ done rest, steps = done ++ rest → lasts (session.run done)) ∨
      session.Since steps begins lasts := by
  induction steps generalizing session with
  | nil =>
    refine .inl fun done rest empty => ?_
    rw [(List.append_eq_nil_iff.mp empty.symm).1]
    exact holds
  | cons step steps ih =>
    -- It has held from the second session on, or else a step after that has begun it.
    rcases ih (sound.step step) holds with always | ⟨before, first, later, split, begun, lasting⟩
    · rcases began session step sound (always [] steps rfl) with held | begun
      · refine .inl fun done rest split => ?_
        cases done with
        | nil => exact held
        | cons first done =>
          rw [List.cons_append, List.cons.injEq] at split
          rw [← split.1]
          exact always done rest split.2
      · exact .inr ⟨[], step, steps, rfl, begun, always⟩
    · exact .inr ⟨step :: before, first, later, congrArg (step :: ·) split, begun, lasting⟩

theorem since_of_offers {α : Type} {part? : Object → Option α} {value : α}
    {begins : Session → Step → Prop}
    (began : ∀ session step, session.Sound → (session.step step).2.Offers name part? value →
      session.Offers name part? value ∨ begins session step)
    {steps : List Step} (offered : (run {} steps).Offers name part? value) :
    Since {} steps begins (·.Offers name part? value) := by
  rcases Sound.since (·.Offers name part? value) began sound_empty offered with always | since
  · obtain ⟨object, found, -⟩ := always [] steps rfl
    cases found
  · exact since

end TabletRecords.Session
