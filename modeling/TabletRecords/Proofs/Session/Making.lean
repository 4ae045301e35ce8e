import TabletRecords.Proofs.Session.Script

/-!
Making objects. Most steps that store an object make it of a value whose lists an arena pays for: a
new value, a copy, or one read from bytes.
-/
namespace TabletRecords.Session

open Arena (ArenaId Ledger)
open Charging (Accounts)
open Outcome

theorem Object.copy_cases {object : Object} {arena : ArenaId} {kind? : Option ValueKind}
    {operation : Charging Object} (copies : object.copy? arena kind? = some operation) :
    (∃ items, object.words? = some items ∧
      operation = Charging.hold wordsFormat items arena >>= fun held => pure (.words held)) ∨
    (∃ sequence, object.autoincrement? = some sequence ∧
      operation = Charging.hold Autoincrement.Sequence.format sequence arena >>= fun held =>
        pure (.autoincrement held)) ∨
    (∃ binding, object.binding? = some binding ∧
      operation = Charging.hold Binding.format binding arena >>= fun held =>
        pure (.binding held)) ∨
    (∃ schema, object.schema? = some schema ∧
      operation = Charging.hold StorageSchema.format schema arena >>= fun held =>
        pure (.schema held)) ∨
    ∃ queue, object.compactions? = some queue ∧
      operation = Charging.hold CompactionQueue.format queue arena >>= fun held =>
        pure (.compactions held) := by
  obtain ⟨kind, -, copies⟩ := Option.bind_eq_some_iff.mp copies
  cases kind with
  | words =>
    obtain ⟨items, has, ⟨⟩⟩ := Option.bind_eq_some_iff.mp copies
    exact .inl ⟨items, has, rfl⟩
  | autoincrement =>
    obtain ⟨sequence, has, ⟨⟩⟩ := Option.bind_eq_some_iff.mp copies
    exact .inr (.inl ⟨sequence, has, rfl⟩)
  | binding =>
    obtain ⟨binding, has, ⟨⟩⟩ := Option.bind_eq_some_iff.mp copies
    exact .inr (.inr (.inl ⟨binding, has, rfl⟩))
  | schema =>
    obtain ⟨schema, has, ⟨⟩⟩ := Option.bind_eq_some_iff.mp copies
    exact .inr (.inr (.inr (.inl ⟨schema, has, rfl⟩)))
  | compactions =>
    obtain ⟨queue, has, ⟨⟩⟩ := Option.bind_eq_some_iff.mp copies
    exact .inr (.inr (.inr (.inr ⟨queue, has, rfl⟩)))

namespace Script

variable {α β : Type} {session : Session} {arena : ArenaId}

/-- An operation makes objects that an arena pays for. -/
structure Makes (operation : Charging α) (wrap : α → Object) (arena : ArenaId) : Prop where
  accounts : Accounts operation (fun value => (wrap value).charges) []
  paid : ∀ before value after, operation before = .ok value after → (wrap value).PaidBy arena

theorem Makes.store {operation : Charging α} {wrap : α → Object}
    (makes : Makes operation wrap arena) (sound : session.Sound)
    (opened : arena.index < session.ledger.next) (target : String) :
    (charging operation >>= fun value => Script.store target (wrap value)).Keeps session := by
  refine .charging_store sound makes.accounts ?_ target
  intro value after done posting
  exact (makes.paid _ _ _ done).sound (Nat.lt_of_lt_of_le opened posting.next_le)

theorem Makes.map {operation : Charging α} {wrap : α → Object} (makes : Makes operation wrap arena) :
    Makes (operation >>= fun value => pure (wrap value)) id arena where
  accounts := makes.accounts.map wrap fun _ => rfl
  paid := by
    intro before object after done
    obtain ⟨value, _, done, h⟩ := bind_eq_ok_iff.mp done
    cases h
    exact makes.paid _ _ _ done

/-- Values of one kind, as objects that hold what the values hold. -/
structure Wraps (format : Wire.Format α) (wrap : Held α → Object) : Prop where
  charges : ∀ held, (wrap held).charges = held.charges format
  payer : ∀ held, (wrap held).payer? = held.payer
  kind : ∀ held p, wrap held ≠ .parameter p

theorem wraps_words : Wraps wordsFormat .words where
  charges _ := rfl
  payer _ := rfl
  kind _ _ h := by cases h

theorem wraps_autoincrement : Wraps Autoincrement.Sequence.format .autoincrement where
  charges _ := rfl
  payer _ := rfl
  kind _ _ h := by cases h

theorem wraps_binding : Wraps Binding.format .binding where
  charges _ := rfl
  payer _ := rfl
  kind _ _ h := by cases h

theorem wraps_schema : Wraps StorageSchema.format .schema where
  charges _ := rfl
  payer _ := rfl
  kind _ _ h := by cases h

theorem wraps_compactions : Wraps CompactionQueue.format .compactions where
  charges _ := rfl
  payer _ := rfl
  kind _ _ h := by cases h

theorem Wraps.makes {format : Wire.Format α} {wrap : Held α → Object} (wraps : Wraps format wrap)
    {operation : Charging (Held α)} (accounts : Accounts operation (·.charges format) [])
    (result : ∀ before held after, operation before = .ok held after →
      held.payer = some arena ∧ (wrap held).Valid) : Makes operation wrap arena where
  accounts := by
    simp only [wraps.charges]
    exact accounts
  paid before held after done := by
    obtain ⟨payer, valid⟩ := result before held after done
    exact ⟨valid, (wraps.payer held).trans payer, wraps.kind held⟩

theorem makes_hold {format : Wire.Format α} {wrap : Held α → Object} (wraps : Wraps format wrap)
    {value : α} (valid : (wrap ⟨value, some arena⟩).Valid) :
    Makes (Charging.hold format value arena) wrap arena := by
  refine wraps.makes (Charging.hold_accounts value arena) ?_
  intro before held after done
  obtain ⟨rfl, -⟩ := Charging.hold_eq_ok_iff.mp done
  exact ⟨rfl, valid⟩

theorem makes_receive {format : Wire.Format α} {legal : α → Prop} (lawful : format.Lawful legal)
    {wrap : Held α → Object} (wraps : Wraps format wrap) (bytes : List UInt8)
    (valid : ∀ value, legal value → (wrap ⟨value, some arena⟩).Valid) :
    Makes (Charging.receive format bytes arena) wrap arena := by
  refine wraps.makes (Charging.receive_accounts lawful bytes arena) ?_
  intro before held after done
  obtain ⟨value, _, _, rfl, hlegal, -⟩ := (Charging.receive_eq_ok_iff lawful).mp done
  exact ⟨rfl, valid value hlegal⟩

theorem makes_charge (arena : ArenaId) (size : Nat) :
    Makes (Charging.holding arena [size] (pure (.charge arena size))) id arena where
  accounts := by
    refine ⟨(Charging.Restores.pure _).holding _, ?_⟩
    intro before object after _ done
    obtain ⟨account, fits, h⟩ := Charging.holding_eq_ok_iff.mp done
    cases h
    exact .of_chargeAll fits
  paid := by
    intro before object after done
    obtain ⟨account, fits, h⟩ := Charging.holding_eq_ok_iff.mp done
    cases h
    exact ⟨trivial, rfl, fun _ h => by cases h⟩

theorem makes_copy {object : Object} {kind? : Option ValueKind} {operation : Charging Object}
    {ledger : Ledger} (sound : object.Sound ledger)
    (copies : object.copy? arena kind? = some operation) : Makes operation id arena := by
  rcases Object.copy_cases copies with ⟨items, -, rfl⟩ | ⟨sequence, has, rfl⟩ | ⟨binding, -, rfl⟩ |
    ⟨schema, -, rfl⟩ | ⟨queue, -, rfl⟩
  · exact (makes_hold wraps_words trivial).map
  · exact (makes_hold wraps_autoincrement (sound.isValid_autoincrement has)).map
  · exact (makes_hold wraps_binding trivial).map
  · exact (makes_hold wraps_schema trivial).map
  · exact (makes_hold wraps_compactions trivial).map

theorem words_lawful :
    wordsFormat.Lawful fun items =>
      items.length < Wire.BigEndian.capacity 4 ∧ ∀ item ∈ items, True :=
  Wire.Format.uint64_lawful.counted 8 8 (fun _ => rfl) fun _ _ => Nat.le_refl 8

theorem makes_decode (kind : ValueKind) (bytes : List UInt8) (arena : ArenaId) :
    Makes (decode kind bytes arena) id arena := by
  cases kind with
  | words => exact (makes_receive words_lawful wraps_words bytes fun _ _ => trivial).map
  | autoincrement =>
    refine (makes_receive Autoincrement.Sequence.format_lawful wraps_autoincrement bytes ?_).map
    intro sequence legal
    exact legal.isValid
  | binding => exact (makes_receive Binding.format_lawful wraps_binding bytes fun _ _ => trivial).map
  | schema =>
    exact (makes_receive StorageSchema.format_lawful wraps_schema bytes fun _ _ => trivial).map
  | compactions =>
    exact (makes_receive CompactionQueue.format_lawful wraps_compactions bytes fun _ _ => trivial).map

end Script

end TabletRecords.Session
