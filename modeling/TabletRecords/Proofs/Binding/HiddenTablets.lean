import TabletRecords.Proofs.Session.History

/-!
Hidden tablets. The ids in a binding are valid wherever the binding has been built, copied or sent,
for the one operation that sets them accepts only valid ones; but a binding that is read from bytes
has the ids that stand there.
-/
namespace TabletRecords

open Arena (ArenaId Ledger)
open Charging Outcome
open Session (Object Step)

def Binding.HiddenValid (binding : Binding) : Prop := ∀ id ∈ binding.hiddenTabletIds, id.isValid

def Session.Object.HiddenValid (object : Object) : Prop :=
  ∀ binding, object.binding? = some binding → binding.HiddenValid

namespace Binding

variable {binding changed : Binding} {ids : List TabletId}

theorem withHidden_eq_ok_iff :
    binding.withHidden ids = .ok changed ↔
      (∀ id ∈ ids, id.isValid) ∧ changed = { binding with hiddenTabletIds := ids } := by
  unfold withHidden
  cases invalid : ids.find? (!·.isValid) with
  | none =>
    have valid : ∀ id ∈ ids, id.isValid := by simpa using invalid
    constructor
    · intro h
      cases h
      exact ⟨valid, rfl⟩
    · rintro ⟨-, rfl⟩
      rfl
  | some id =>
    have mem := List.mem_of_find?_eq_some invalid
    have failed := List.find?_some invalid
    simp only [reduceCtorEq, false_iff]
    rintro ⟨valid, -⟩
    simp [valid id mem] at failed

theorem hiddenValid_of_hidden_eq_nil (none : binding.hiddenTabletIds = []) :
    binding.HiddenValid := by
  unfold HiddenValid
  simp [none]

theorem hiddenValid_of_setHidden {old held : Held Binding} {arena : ArenaId}
    {before after : Ledger} (done : setHidden old ids arena before = .ok held after) :
    held.value.HiddenValid := by
  obtain ⟨changed, _, found, done⟩ := bind_eq_ok_iff.mp done
  obtain ⟨accepted, -⟩ := ofExcept_eq_ok_iff.mp found
  obtain ⟨valid, rfl⟩ := withHidden_eq_ok_iff.mp accepted
  obtain ⟨rfl, -⟩ := replace_eq_ok_iff.mp done
  exact valid

end Binding

namespace Session

variable {session : Session}

theorem Offers.hiddenValid {name : String} {binding : Binding} (all : session.All Object.HiddenValid)
    (offered : session.Offers name Object.binding? binding) : binding.HiddenValid := by
  obtain ⟨object, found, has⟩ := offered
  exact all name object found binding has

theorem binding_of_attach {object : Object} {parameter result : TransferParameter}
    {kind? : Option ValueKind} {operation : Charging TransferParameter} {before after : Ledger}
    (attaches : object.attach? parameter kind? = some operation)
    (done : operation before = .ok result after) :
    object.binding? = some result.snapshot.binding ∨
      result.snapshot.binding = parameter.snapshot.binding := by
  rcases Object.attach_cases attaches with ⟨_, -, rfl⟩ | ⟨binding, has, rfl⟩ | ⟨_, -, rfl⟩ |
      ⟨_, -, rfl⟩ <;>
    obtain ⟨rfl, -⟩ := TransferParameter.setPart_eq_ok_iff.mp done
  · exact .inr rfl
  · exact .inl has
  · exact .inr rfl
  · exact .inr rfl

theorem passesOn_hiddenValid : PassesOn Object.HiddenValid := by
  intro session step name object sound all puts unread binding has
  cases puts with
  | copy target named found copies done =>
    exact all _ _ found binding (Object.binding?_of_copy copies done has)
  | makeBinding =>
    cases has
    exact Binding.hiddenValid_of_hidden_eq_nil rfl
  | setHidden named found done =>
    cases has
    exact Binding.hiddenValid_of_setHidden done
  | @editBinding name held edit found =>
    cases has
    have valid : held.value.HiddenValid := all _ _ found _ rfl
    exact valid
  | editParameter edit found =>
    cases has
    exact all _ _ found _ rfl
  | makeTablet =>
    cases has
    exact Binding.hiddenValid_of_hidden_eq_nil rfl
  | initTablet found named asks done =>
    obtain ⟨-, rfl, -⟩ := Tablet.init_eq_ok_iff.mp done
    cases has
    rcases asks.offers_binding with none | ⟨name, offered⟩
    · exact Binding.hiddenValid_of_hidden_eq_nil none
    · exact offered.hiddenValid all
  | updateTablet found found' done =>
    obtain ⟨old, arena, -, -, rfl, -⟩ := Tablet.update_eq_ok_iff.mp done
    cases has
    exact all _ _ found' _ rfl
  | updateCreateScn found done =>
    obtain ⟨old, arena, rfl, -, rfl⟩ := Tablet.updateCreateScn_eq_ok_iff.mp done
    exact all _ _ found binding has
  | resetTablet found done =>
    obtain ⟨rfl, -⟩ := Tablet.reset_eq_ok_iff.mp done
    cases has
    exact Binding.hiddenValid_of_hidden_eq_nil rfl
  | resetParameter found done =>
    obtain ⟨rfl, -⟩ := TransferParameter.reset_eq_ok_iff.mp done
    cases has
    exact Binding.hiddenValid_of_hidden_eq_nil rfl
  | makeParameter target done =>
    obtain ⟨_, -, rfl, -⟩ := TransferParameter.ofSnapshot_eq_ok_iff.mp done
    cases has
    exact Binding.hiddenValid_of_hidden_eq_nil rfl
  | attach found found' attaches done =>
    cases has
    rcases binding_of_attach attaches done with taken | kept
    · exact all _ _ found' _ taken
    · rw [kept]
      exact all _ _ found _ rfl
  | assign found found' done =>
    obtain ⟨-, done⟩ := TransferParameter.assign_eq_ok_iff.mp done
    obtain ⟨rfl, -⟩ := TransferParameter.setPart_eq_ok_iff.mp done
    cases has
    exact all _ _ found' _ rfl
  | sendTablet target found offered offered' done =>
    obtain ⟨descriptor, arena, rfl, -, made⟩ := TransferParameter.ofTablet_eq_ok_iff.mp done
    obtain ⟨_, -, rfl, -⟩ := TransferParameter.ofSnapshot_eq_ok_iff.mp made
    cases has
    exact all _ _ found _ rfl
  | makePlaceholder target done =>
    obtain ⟨-, made⟩ := TransferParameter.restorePlaceholder_eq_ok_iff.mp done
    obtain ⟨_, -, rfl, -⟩ := TransferParameter.ofSnapshot_eq_ok_iff.mp made
    cases has
    exact Binding.hiddenValid_of_hidden_eq_nil rfl
  | decode | readTablet | readParameter => exact absurd rfl unread
  | _ => cases has

/-- Hidden tablets are valid in every binding that a run ends with, also in those of tablets and of
parameters, as long as they are in what the run reads from bytes. -/
theorem isValid_of_mem_hidden {steps : List Step} (reads : ReadsOnly Object.HiddenValid {} steps)
    {name : String} {object : Object} {binding : Binding}
    (found : (run {} steps).find? name = some object) (has : object.binding? = some binding) :
    ∀ id ∈ binding.hiddenTabletIds, id.isValid := by
  have all := passesOn_hiddenValid.all_run sound_empty (all_empty _) reads
  exact all name object found binding has

/-- A run that reads a binding with the given hidden tablets and copies it into a parameter. -/
def receiving (ids : List TabletId) : List Step :=
  [.openArena "a" "lists" 4096,
   .decode "b" "a" .binding (Binding.format.bytes { hiddenTabletIds := ids }),
   .makeParameter "p" {},
   .attach "p" "b"]

def received (ids : List TabletId) : TransferParameter where
  arena := ⟨1⟩
  settings := {}
  snapshot := { binding := { hiddenTabletIds := ids } }

theorem isValid_of_mem_hidden_receiving :
    (run {} (receiving [⟨10⟩, ⟨11⟩])).find? "p" = some (.parameter (received [⟨10⟩, ⟨11⟩])) ∧
      ∀ id ∈ (received [⟨10⟩, ⟨11⟩]).snapshot.binding.hiddenTabletIds, id.isValid := by
  have valid : Object.HiddenValid (.binding ⟨{ hiddenTabletIds := [⟨10⟩, ⟨11⟩] }, some ⟨0⟩⟩) := by
    rintro binding ⟨⟩
    unfold Binding.HiddenValid
    decide
  have reads : ReadsOnly Object.HiddenValid {} (receiving [⟨10⟩, ⟨11⟩]) :=
    .cons rfl (.cons_of_reads rfl rfl valid (.cons rfl (.cons rfl trivial)))
  have found : (run {} (receiving [⟨10⟩, ⟨11⟩])).find? "p" =
      some (.parameter (received [⟨10⟩, ⟨11⟩])) := rfl
  exact ⟨found, isValid_of_mem_hidden reads found rfl⟩

/-- What is read is not checked: a binding read from bytes, and the parameter that it is copied to,
can have a hidden tablet that is none. -/
theorem not_forall_isValid_of_mem_hidden :
    ¬∀ (steps : List Step) (name : String) (object : Object) (binding : Binding),
      (run {} steps).find? name = some object → object.binding? = some binding →
        ∀ id ∈ binding.hiddenTabletIds, id.isValid := by
  intro valid
  have found : (run {} (receiving [.invalid])).find? "p" =
      some (.parameter (received [.invalid])) := rfl
  have accepted := valid _ _ _ _ found rfl .invalid List.mem_cons_self
  exact absurd accepted (by decide)

end Session

end TabletRecords
