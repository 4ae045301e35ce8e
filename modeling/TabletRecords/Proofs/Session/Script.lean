import TabletRecords.Proofs.Building
import TabletRecords.Proofs.Session.Sound

/-!
Rules for scripts. A script first looks objects up, then it may run one operation on the ledger, and
only then it changes the names. So a script that fails leaves the session as it was, and one that
succeeds is judged by what the operation charged and what it let go.
-/
namespace TabletRecords.Session

open Arena (ArenaId Ledger)
open Charging (Accounts)
open Outcome

namespace Script

variable {α β : Type} {session : Session} {name : String} {object old : Object}

/-- A script fails without a trace, or ends in a value and a session with some property. -/
structure Ends (script : Script α) (session : Session) (post : α → Session → Prop) : Prop where
  ok : ∀ value after, script session = .ok value after → post value after
  error : ∀ error after, script session = .error error after → after = session

/-- A script only looks at the session, and what it finds has some property. -/
def Reads (script : Script α) (session : Session) (found : α → Prop) : Prop :=
  script.Ends session fun value after => after = session ∧ found value

/-- A script ends in a sound session, and every arena keeps its limit. -/
def Keeps (script : Script α) (session : Session) : Prop :=
  script.Ends session fun _ after => after.Sound ∧ session.ledger.Continues after.ledger

theorem Ends.of_ok {script : Script α} {post : α → Session → Prop} {value : α} {after : Session}
    (done : script session = .ok value after) (holds : post value after) :
    script.Ends session post where
  ok value' after' done' := by
    rw [done] at done'
    cases done'
    exact holds
  error error after' failed := by
    rw [done] at failed
    cases failed

theorem Reads.bind {first : Script α} {next : α → Script β} {found : α → Prop}
    {post : β → Session → Prop} (reads : first.Reads session found)
    (later : ∀ value, found value → (next value).Ends session post) :
    (first >>= next).Ends session post where
  ok result after done := by
    obtain ⟨value, middle, done, done'⟩ := bind_eq_ok_iff.mp done
    obtain ⟨same, holds⟩ := reads.ok _ _ done
    rw [same] at done'
    exact (later value holds).ok _ _ done'
  error error after failed := by
    rcases bind_eq_error_iff.mp failed with failed | ⟨value, middle, done, failed⟩
    · exact reads.error _ _ failed
    · obtain ⟨same, holds⟩ := reads.ok _ _ done
      rw [same] at failed
      exact (later value holds).error _ _ failed

theorem Ends.mono {script : Script α} {post post' : α → Session → Prop}
    (ends : script.Ends session post) (weaker : ∀ value after, post value after → post' value after) :
    script.Ends session post' where
  ok value after done := weaker value after (ends.ok value after done)
  error := ends.error

theorem unusable_ends {post : α → Session → Prop} :
    (unusable name : Script α).Ends session post where
  ok _ _ done := by cases done
  error error after failed := by
    cases failed
    rfl

theorem pure_reads {found : α → Prop} {value : α} (holds : found value) :
    (pure value : Script α).Reads session found :=
  .of_ok rfl ⟨rfl, holds⟩

theorem ofResult_reads (result : Except Fault α) :
    (ofResult result).Reads session (result = .ok ·) := by
  cases result with
  | ok value => exact .of_ok rfl ⟨rfl, rfl⟩
  | error fault =>
    constructor
    · intro value after done
      cases done
    · intro error after failed
      cases failed
      rfl

theorem want_reads (name : String) (part? : Object → Option α) :
    (want name part?).Reads session fun value =>
      ∃ object, session.find? name = some object ∧ part? object = some value := by
  have looks : (get : Script Session).Reads session (· = session) := .of_ok rfl ⟨rfl, rfl⟩
  refine looks.bind fun looked same => ?_
  rw [same]
  cases found : (session.find? name).bind part? with
  | none => exact unusable_ends
  | some value => exact pure_reads (Option.bind_eq_some_iff.mp found)

theorem object_reads (name : String) :
    (Script.object name).Reads session (session.find? name = some ·) := by
  refine (want_reads name some).mono ?_
  rintro value after ⟨same, object, found, h⟩
  cases h
  exact ⟨same, found⟩

theorem want_eq_ok {part? : Object → Option α} {value : α}
    (found : (session.find? name).bind part? = some value) :
    want name part? session = .ok value session := by
  refine (bind_eq_of_ok (get_apply session)).trans ?_
  simp only [found]
  rfl

theorem arena_reads (sound : session.Sound) (name : String) :
    (Script.arena name).Reads session (·.index < session.ledger.next) := by
  refine (want_reads name Object.arena?).mono ?_
  rintro arena after ⟨same, object, found, h⟩
  refine ⟨same, (sound.find? found).opened arena ?_⟩
  cases object <;> cases h <;> rfl

theorem tablet_reads (name : String) :
    (Script.tablet name).Reads session fun tablet =>
      session.find? name = some (.tablet tablet) := by
  refine (want_reads name _).mono ?_
  rintro tablet after ⟨same, object, found, h⟩
  cases object <;> cases h
  exact ⟨same, found⟩

theorem parameter_reads (name : String) :
    (Script.parameter name).Reads session fun parameter =>
      session.find? name = some (.parameter parameter) := by
  refine (want_reads name _).mono ?_
  rintro parameter after ⟨same, object, found, h⟩
  cases object <;> cases h
  exact ⟨same, found⟩

theorem buffer_reads (name : String) :
    (Script.buffer name).Reads session fun bytes => session.find? name = some (.buffer bytes) := by
  refine (want_reads name _).mono ?_
  rintro bytes after ⟨same, object, found, h⟩
  cases object <;> cases h
  exact ⟨same, found⟩

theorem charging_eq_ok_iff {operation : Charging α} {value : α} {after : Session} :
    charging operation session = .ok value after ↔
      ∃ ledger, operation session.ledger = .ok value ledger ∧
        after = { session with ledger } := by
  unfold charging
  cases operation session.ledger with
  | ok value ledger =>
    constructor
    · intro h
      cases h
      exact ⟨ledger, rfl, rfl⟩
    · rintro ⟨_, h, rfl⟩
      cases h
      rfl
  | error fault ledger => simp

theorem charging_eq_error_iff {operation : Charging α} {error : StepError} {after : Session} :
    charging operation session = .error error after ↔
      ∃ fault ledger, operation session.ledger = .error fault ledger ∧
        error = .fault fault ∧ after = { session with ledger } := by
  unfold charging
  cases operation session.ledger with
  | ok value ledger => simp
  | error fault ledger =>
    constructor
    · intro h
      cases h
      exact ⟨fault, ledger, rfl, rfl, rfl⟩
    · rintro ⟨_, _, h, rfl, rfl⟩
      cases h
      rfl

theorem Keeps.pure (sound : session.Sound) (value : α) : (pure value : Script α).Keeps session :=
  .of_ok rfl ⟨sound, .refl _⟩

/-- An operation on the ledger, and then what is made of its result. The operation is the last part
that may fail, so nothing is left of a failure but what the operation itself leaves. -/
theorem Ends.charging {operation : Charging α} {finish : α → Script β} {post : β → Session → Prop}
    (restores : Charging.Restores operation)
    (later : ∀ value after, operation session.ledger = .ok value after →
      ∃ answer ended, finish value { session with ledger := after } = .ok answer ended ∧
        post answer ended) :
    (Script.charging operation >>= finish).Ends session post := by
  constructor
  · intro result ended done
    obtain ⟨value, middle, charged, finished⟩ := bind_eq_ok_iff.mp done
    obtain ⟨after, done, rfl⟩ := charging_eq_ok_iff.mp charged
    obtain ⟨answer, ended', finished', holds⟩ := later value after done
    rw [finished] at finished'
    cases finished'
    exact holds
  · intro error ended failed
    rcases bind_eq_error_iff.mp failed with failed | ⟨value, middle, charged, failed⟩
    · obtain ⟨fault, after, stopped, -, rfl⟩ := charging_eq_error_iff.mp failed
      rw [restores _ _ _ stopped]
    · obtain ⟨after, done, rfl⟩ := charging_eq_ok_iff.mp charged
      obtain ⟨answer, ended', finished, -⟩ := later value after done
      rw [finished] at failed
      cases failed

theorem Keeps.charging {operation : Charging α} {charges : α → List (ArenaId × Nat)}
    {released : List (ArenaId × Nat)} {finish : α → Script β} (sound : session.Sound)
    (accounts : Accounts operation charges released)
    (later : ∀ value after, operation session.ledger = .ok value after →
      session.ledger.Posting (charges value) released after →
      ∃ answer ended, finish value { session with ledger := after } = .ok answer ended ∧
        ended.Sound ∧ after.Continues ended.ledger) :
    (Script.charging operation >>= finish).Keeps session := by
  refine Ends.charging accounts.restores fun value after done => ?_
  have posting := accounts.posting _ _ _ sound.fresh done
  obtain ⟨answer, ended, finished, holds, continues⟩ := later value after done posting
  exact ⟨answer, ended, finished, holds, posting.continues.trans continues⟩

theorem Keeps.charging_store {operation : Charging α} {wrap : α → Object} (sound : session.Sound)
    (accounts : Accounts operation (fun value => (wrap value).charges) [])
    (made : ∀ value after, operation session.ledger = .ok value after →
      session.ledger.Posting (wrap value).charges [] after → (wrap value).Sound after)
    (target : String) :
    (Script.charging operation >>= fun value => store target (wrap value)).Keeps session := by
  refine .charging sound accounts fun value after done posting => ⟨_, _, rfl, ?_⟩
  exact ⟨sound.store (made value after done posting) posting target,
    continues_letGo { session with ledger := after } target⟩

theorem Keeps.store (sound : session.Sound) (new : object.Sound session.ledger)
    (holds : object.charges = []) (target : String) :
    (store target object).Keeps session := by
  refine .of_ok rfl ⟨sound.store new ?_ target, continues_letGo session target⟩
  rw [holds]
  exact .refl _ _

theorem Keeps.store_unpaid (sound : session.Sound) (object : Object) (valid : object.Valid)
    (unpaid : object.payer? = none) (empty : object.memory = 0) (target : String) :
    (Script.store target object).Keeps session :=
  Keeps.store sound (Object.sound_unpaid valid unpaid empty) (Object.charges_eq_nil unpaid) target

theorem Keeps.charging_put {operation : Charging α} (wrap : α → Object) {finish : α → Script β}
    (sound : session.Sound) (found : session.find? name = some old)
    (accounts : Accounts operation (fun value => (wrap value).charges) old.charges)
    (made : ∀ value after, operation session.ledger = .ok value after →
      session.ledger.Posting (wrap value).charges old.charges after → (wrap value).Sound after)
    (puts : ∀ value session, ∃ answer,
      finish value session = .ok answer (session.insert name (wrap value))) :
    (Script.charging operation >>= finish).Keeps session := by
  refine .charging sound accounts fun value after done posting => ?_
  obtain ⟨answer, finished⟩ := puts value { session with ledger := after }
  refine ⟨answer, _, finished, sound.insert (made value after done posting) ?_, .refl _⟩
  rwa [chargesOf_eq found]

theorem Keeps.put {script : Script α} (new : Object) (sound : session.Sound)
    (found : session.find? name = some old) (newSound : new.Sound session.ledger)
    (holds : new.charges = old.charges)
    (puts : ∃ answer, script session = .ok answer (session.insert name new)) :
    script.Keeps session := by
  obtain ⟨answer, done⟩ := puts
  refine .of_ok done ⟨sound.insert newSound ?_, .refl _⟩
  rw [chargesOf_eq found, holds]
  exact .refl _ _

theorem Keeps.drop (sound : session.Sound) (name : String) : (Script.drop name).Keeps session :=
  (object_reads name).bind fun _ _ =>
    .of_ok rfl ⟨sound.erase_letGo name, continues_letGo session name⟩

end Script

theorem step_eq_of_error {session : Session} {step : Step} {post : Answer → Session → Prop}
    {error : StepError} (ends : step.script.Ends session post)
    (failed : (session.step step).1 = .error error) :
    session.step step = (.error error, session) := by
  unfold Session.step at failed ⊢
  cases done : step.script session with
  | ok answer after =>
    rw [done] at failed
    cases failed
  | error error' after =>
    rw [done] at failed
    cases failed
    rw [ends.error _ _ done]

end TabletRecords.Session
