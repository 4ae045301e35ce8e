import TabletRecords.Settings

/-!
The limits of an installation. Each limit is decided by the text of its own variable alone: by the
number that the text spells, if it spells one that an address can hold, and by the default
otherwise. What a text spells is said without reference to how it is read.
-/
namespace TabletRecords

namespace Text

theorem isBlank_of_mem_takeWhile {chars : List Char} {c : Char}
    (h : c ∈ chars.takeWhile isBlank) : isBlank c := by
  have := List.all_takeWhile (p := isBlank) (l := chars)
  exact List.all_eq_true.mp this c h

theorem exists_eq_append_strip (chars : List Char) :
    ∃ left right, chars = left ++ strip chars ++ right ∧
      (∀ c ∈ left, isBlank c) ∧ ∀ c ∈ right, isBlank c := by
  let rest := chars.dropWhile isBlank
  refine ⟨chars.takeWhile isBlank, (rest.reverse.takeWhile isBlank).reverse, ?_,
    fun c => isBlank_of_mem_takeWhile, fun c h => isBlank_of_mem_takeWhile (by simpa using h)⟩
  have hrest : strip chars ++ (rest.reverse.takeWhile isBlank).reverse = rest := by
    rw [strip, ← List.reverse_append, List.takeWhile_append_dropWhile, List.reverse_reverse]
  rw [List.append_assoc, hrest, List.takeWhile_append_dropWhile]

theorem dropWhile_isBlank_append {left : List Char} (h : ∀ c ∈ left, isBlank c)
    (chars : List Char) : (left ++ chars).dropWhile isBlank = chars.dropWhile isBlank :=
  List.dropWhile_append_of_pos h

theorem dropWhile_isBlank_of_not {chars : List Char} (h : ∀ c ∈ chars, ¬ isBlank c) :
    chars.dropWhile isBlank = chars := by
  cases chars with
  | nil => rfl
  | cons c chars => exact List.dropWhile_cons_of_neg (h c (by simp))

theorem strip_append_append {left chars right : List Char} (hleft : ∀ c ∈ left, isBlank c)
    (hchars : ∀ c ∈ chars, ¬ isBlank c) (hright : ∀ c ∈ right, isBlank c) :
    strip (left ++ chars ++ right) = chars := by
  cases hempty : chars with
  | nil =>
    have hall : ∀ c ∈ left ++ right, isBlank c := by
      simpa [or_imp, forall_and] using ⟨hleft, hright⟩
    have hdrop : (left ++ right).dropWhile isBlank = [] := by
      simpa using dropWhile_isBlank_append hall []
    simp [strip, hdrop]
  | cons c rest =>
    have hc : ¬ isBlank c := hchars c (by simp [hempty])
    have hdrop : (left ++ chars ++ right).dropWhile isBlank = chars ++ right := by
      rw [List.append_assoc, dropWhile_isBlank_append hleft, hempty, List.cons_append,
        List.dropWhile_cons_of_neg hc]
    rw [← hempty, strip, hdrop, List.reverse_append,
      dropWhile_isBlank_append (by simpa using hright),
      dropWhile_isBlank_of_not (by simpa using hchars), List.reverse_reverse]

theorem dropWhile_isBlank_append_cons {c : Char} (h : ¬ isBlank c) (left right : List Char) :
    ∃ kept, (left ++ c :: right).dropWhile isBlank = kept ++ c :: right := by
  induction left with
  | nil => exact ⟨[], List.dropWhile_cons_of_neg h⟩
  | cons d left ih =>
    by_cases hd : isBlank d
    · simpa [List.dropWhile_cons_of_pos hd] using ih
    · exact ⟨d :: left, List.dropWhile_cons_of_neg hd⟩

theorem mem_strip_of_mem {first last : Char} (hfirst : ¬ isBlank first) (hlast : ¬ isBlank last)
    (before between after : List Char) {c : Char} (hc : c ∈ between) :
    c ∈ strip (before ++ first :: (between ++ last :: after)) := by
  obtain ⟨left, hleft⟩ :=
    dropWhile_isBlank_append_cons hfirst before (between ++ last :: after)
  obtain ⟨right, hright⟩ :=
    dropWhile_isBlank_append_cons hlast after.reverse (between.reverse ++ first :: left.reverse)
  have hreverse : (left ++ first :: (between ++ last :: after)).reverse =
      after.reverse ++ last :: (between.reverse ++ first :: left.reverse) := by simp
  rw [strip, hleft, hreverse, hright]
  simp [hc]

end Text

namespace Settings

/-- A text that is a number between white space: decimal digits, at least one and with any zeros in
front, after at most one plus sign. -/
inductive Spells : String → Nat → Prop
  | intro {text : String} {left sign digits right : List Char}
      (chars : text.toList = left ++ (sign ++ digits) ++ right)
      (left_blank : ∀ c ∈ left, Text.isBlank c) (right_blank : ∀ c ∈ right, Text.isBlank c)
      (sign_plus : sign = [] ∨ sign = ['+'])
      (digits_ne_nil : digits ≠ []) (digits_isDigit : ∀ c ∈ digits, c.isDigit) :
      Spells text (Nat.ofDigitChars 10 digits 0)

theorem decimal?_eq_some_iff {digits : List Char} {n : Nat} :
    decimal? digits = some n ↔
      digits ≠ [] ∧ (∀ c ∈ digits, c.isDigit) ∧ Nat.ofDigitChars 10 digits 0 = n := by
  have hfold : digits.foldl (fun n digit => n * 10 + (digit.toNat - '0'.toNat)) 0 =
      Nat.ofDigitChars 10 digits 0 := by
    simp only [Nat.ofDigitChars_eq_foldl, Nat.mul_comm]
  rw [decimal?, hfold]
  simp [and_assoc]

theorem not_isBlank_of_isDigit {c : Char} (h : c.isDigit) : ¬ Text.isBlank c := by
  intro hblank
  have hrange : 48 ≤ c.toNat ∧ c.toNat ≤ 57 := by
    simpa [Char.isDigit, UInt32.le_iff_toNat_le] using h
  have hmem : c.toNat ∈ Text.blankCodes := by simpa [Text.isBlank] using hblank
  simp only [Text.blankCodes, List.mem_cons, List.not_mem_nil, or_false] at hmem
  omega

theorem not_isBlank_of_mem_numeral {sign digits : List Char} (hsign : sign = [] ∨ sign = ['+'])
    (hdigits : ∀ c ∈ digits, c.isDigit) : ∀ c ∈ sign ++ digits, ¬ Text.isBlank c := by
  intro c hc
  rcases List.mem_append.mp hc with hc | hc
  · rcases hsign with rfl | rfl
    · cases hc
    · cases List.mem_singleton.mp hc
      decide
  · exact not_isBlank_of_isDigit (hdigits c hc)

theorem size?_of_strip {text : String} {sign digits : List Char}
    (hsign : sign = [] ∨ sign = ['+']) (hdigits : ∀ c ∈ digits, c.isDigit)
    (h : Text.strip text.toList = sign ++ digits) :
    size? text = (decimal? digits).filter (· ≤ Wire.sizeMax) := by
  rw [size?, h]
  rcases hsign with rfl | rfl
  · have hplus : ∀ rest, digits ≠ '+' :: rest := by
      rintro rest rfl
      exact absurd (hdigits '+' (by simp)) (by decide)
    rw [List.nil_append]
    split
    · next rest => exact absurd rfl (hplus rest)
    · rfl
  · rfl

theorem size?_of_spells {text : String} {n : Nat} (h : Spells text n) :
    size? text = (some n).filter (· ≤ Wire.sizeMax) := by
  cases h with
  | intro chars left_blank right_blank sign_plus digits_ne_nil digits_isDigit =>
    have hstrip := Text.strip_append_append left_blank
      (not_isBlank_of_mem_numeral sign_plus digits_isDigit) right_blank
    rw [← chars] at hstrip
    rw [size?_of_strip sign_plus digits_isDigit hstrip,
      decimal?_eq_some_iff.mpr ⟨digits_ne_nil, digits_isDigit, rfl⟩]

theorem exists_of_size?_eq_some {text : String} {n : Nat} (h : size? text = some n) :
    ∃ sign digits, (sign = [] ∨ sign = ['+']) ∧ Text.strip text.toList = sign ++ digits ∧
      decimal? digits = some n := by
  rw [size?] at h
  split at h
  · next digits hstrip =>
    exact ⟨['+'], digits, .inr rfl, hstrip, (Option.filter_eq_some_iff.mp h).1⟩
  · exact ⟨[], Text.strip text.toList, .inl rfl, rfl, (Option.filter_eq_some_iff.mp h).1⟩

theorem spells_of_size?_eq_some {text : String} {n : Nat} (h : size? text = some n) :
    Spells text n := by
  obtain ⟨sign, digits, hsign, hstrip, hdecimal⟩ := exists_of_size?_eq_some h
  obtain ⟨hne, hdigits, rfl⟩ := decimal?_eq_some_iff.mp hdecimal
  obtain ⟨left, right, hchars, hleft, hright⟩ := Text.exists_eq_append_strip text.toList
  rw [hstrip] at hchars
  exact .intro hchars hleft hright hsign hne hdigits

theorem le_sizeMax_iff {n : Nat} : n ≤ Wire.sizeMax ↔ n < UInt64.size := by
  simp only [Wire.sizeMax, UInt64.size]
  omega

theorem size?_eq_some_iff {text : String} {n : Nat} :
    size? text = some n ↔ Spells text n ∧ n < UInt64.size := by
  constructor
  · intro h
    have hspells := spells_of_size?_eq_some h
    rw [size?_of_spells hspells] at h
    obtain ⟨-, hle⟩ := Option.filter_eq_some_iff.mp h
    exact ⟨hspells, le_sizeMax_iff.mp (by simpa using hle)⟩
  · rintro ⟨hspells, hlt⟩
    rw [size?_of_spells hspells]
    exact Option.filter_eq_some_iff.mpr ⟨rfl, by simpa using le_sizeMax_iff.mpr hlt⟩

theorem size?_eq_none_of_spells {text : String} {n : Nat} (h : Spells text n)
    (hn : UInt64.size ≤ n) : size? text = none := by
  rw [size?_of_spells h]
  exact Option.filter_eq_none_iff.mpr (by simpa using mt le_sizeMax_iff.mp (Nat.not_lt.mpr hn))

theorem spells_toString {left right : List Char} (hleft : ∀ c ∈ left, Text.isBlank c)
    (hright : ∀ c ∈ right, Text.isBlank c) (n : Nat) :
    Spells (String.ofList (left ++ (toString n).toList ++ right)) n := by
  have hdigits : (toString n).toList = Nat.toDigits 10 n := Nat.toList_repr
  have hchars : (String.ofList (left ++ (toString n).toList ++ right)).toList =
      left ++ ([] ++ Nat.toDigits 10 n) ++ right := by
    rw [String.toList_ofList, hdigits, List.nil_append]
  have h := Spells.intro hchars hleft hright (.inl rfl) Nat.toDigits_ne_nil
    (fun c => Nat.isDigit_of_mem_toDigits (b := 10) (by decide) (by decide))
  rwa [Nat.ofDigitChars_ten_toDigits] at h

theorem Spells.chars {text : String} {n : Nat} (h : Spells text n) :
    (∀ c ∈ text.toList, Text.isBlank c ∨ c = '+' ∨ c.isDigit) ∧
      ∃ c ∈ text.toList, c.isDigit := by
  cases h with
  | @intro left sign digits right chars left_blank right_blank sign_plus digits_ne_nil digits_isDigit =>
    rw [chars]
    constructor
    · intro c hc
      simp only [List.mem_append] at hc
      rcases hc with (hc | hc | hc) | hc
      · exact .inl (left_blank c hc)
      · rcases sign_plus with rfl | rfl
        · cases hc
        · exact .inr (.inl (List.mem_singleton.mp hc))
      · exact .inr (.inr (digits_isDigit c hc))
      · exact .inl (right_blank c hc)
    · obtain ⟨digit, rest, rfl⟩ := List.exists_cons_of_ne_nil digits_ne_nil
      exact ⟨digit, by simp, digits_isDigit digit (by simp)⟩

def BlankWithin (text : String) : Prop :=
  ∃ before first between last after, text.toList = before ++ first :: (between ++ last :: after) ∧
    ¬ Text.isBlank first ∧ ¬ Text.isBlank last ∧ ∃ c ∈ between, Text.isBlank c

theorem Spells.not_blankWithin {text : String} {n : Nat} (h : Spells text n) :
    ¬ BlankWithin text := by
  rintro ⟨before, first, between, last, after, htext, hfirst, hlast, c, hc, hblank⟩
  have hmem : c ∈ Text.strip text.toList := by
    rw [htext]
    exact Text.mem_strip_of_mem hfirst hlast before between after hc
  cases h with
  | intro chars left_blank right_blank sign_plus digits_ne_nil digits_isDigit =>
    have hnumeral := not_isBlank_of_mem_numeral sign_plus digits_isDigit
    rw [chars, Text.strip_append_append left_blank hnumeral right_blank] at hmem
    exact hnumeral c hmem hblank

inductive Knob where
  | arenaLimit
  | recordLimit

namespace Knob

def name : Knob → String
  | arenaLimit => arenaLimitVariable
  | recordLimit => recordLimitVariable

def limit : Knob → Settings → Nat
  | arenaLimit, settings => settings.arenaLimit
  | recordLimit, settings => settings.recordLimit

theorem limit_ofEnvironment (text? : String → Option String) (knob : Knob) :
    knob.limit (ofEnvironment text?) = ((text? knob.name).bind size?).getD (knob.limit {}) := by
  cases knob <;> rfl

theorem limit_eq_of_size?_eq_some {text? : String → Option String} {knob : Knob} {text : String}
    {n : Nat} (htext : text? knob.name = some text) (h : size? text = some n) :
    knob.limit (ofEnvironment text?) = n := by
  rw [limit_ofEnvironment, htext, Option.bind_some, h, Option.getD_some]

theorem limit_eq_default {text? : String → Option String} {knob : Knob}
    (h : ∀ text, text? knob.name = some text → size? text = none) :
    knob.limit (ofEnvironment text?) = knob.limit {} := by
  rw [limit_ofEnvironment]
  cases htext : text? knob.name with
  | none => rfl
  | some text => rw [Option.bind_some, h text htext, Option.getD_none]

end Knob

/-- Each limit is set by the text of its own variable, and by nothing else: it is the number that
the text spells if this is below `2 ^ 64`, and the default if there is no text, or no such number.
The decimal text of a number spells it between any white space. A text spells nothing if it lacks a
digit (as an empty text and a lone plus sign do), if it has a character other than white space, a
plus sign or digits (as a negative number has), or if it has white space within. -/
theorem limit_of_text (knob : Knob) (text? : String → Option String) :
    (∀ text n, text? knob.name = some text → Spells text n → n < UInt64.size →
      knob.limit (ofEnvironment text?) = n) ∧
    ((∀ text n, text? knob.name = some text → Spells text n → UInt64.size ≤ n) →
      knob.limit (ofEnvironment text?) = knob.limit {}) ∧
    (∀ others? : String → Option String, others? knob.name = text? knob.name →
      knob.limit (ofEnvironment others?) = knob.limit (ofEnvironment text?)) ∧
    (∀ left right n, (∀ c ∈ left, Text.isBlank c) → (∀ c ∈ right, Text.isBlank c) →
      text? knob.name = some (String.ofList (left ++ (toString n).toList ++ right)) →
      knob.limit (ofEnvironment text?) = if n < UInt64.size then n else knob.limit {}) ∧
    (∀ text, text? knob.name = some text →
      (∀ c ∈ text.toList, ¬ c.isDigit) ∨
        (∃ c ∈ text.toList, ¬ Text.isBlank c ∧ c ≠ '+' ∧ ¬ c.isDigit) ∨ BlankWithin text →
      knob.limit (ofEnvironment text?) = knob.limit {}) := by
  have hspelled : ∀ text n, text? knob.name = some text → Spells text n → n < UInt64.size →
      knob.limit (ofEnvironment text?) = n := fun text n htext hspells hn =>
    knob.limit_eq_of_size?_eq_some htext (size?_eq_some_iff.mpr ⟨hspells, hn⟩)
  have hdefault : (∀ text n, text? knob.name = some text → Spells text n → UInt64.size ≤ n) →
      knob.limit (ofEnvironment text?) = knob.limit {} := by
    intro h
    apply knob.limit_eq_default
    intro text htext
    apply Option.eq_none_iff_forall_ne_some.mpr
    intro n hsize
    obtain ⟨hspells, hlt⟩ := size?_eq_some_iff.mp hsize
    exact absurd hlt (Nat.not_lt.mpr (h text n htext hspells))
  refine ⟨hspelled, hdefault, ?_, ?_, ?_⟩
  · intro others? h
    rw [Knob.limit_ofEnvironment, Knob.limit_ofEnvironment, h]
  · intro left right n hleft hright htext
    have hspells := spells_toString hleft hright n
    split
    · next hlt => exact hspelled _ n htext hspells hlt
    · next hge =>
      apply knob.limit_eq_default
      intro text htext'
      rw [← Option.some.inj (htext.symm.trans htext')]
      exact size?_eq_none_of_spells hspells (Nat.not_lt.mp hge)
  · intro text htext hno
    apply hdefault
    intro text' n htext' hspells
    rw [← Option.some.inj (htext.symm.trans htext')] at hspells
    obtain ⟨hplaces, digit, hdigit, hisDigit⟩ := hspells.chars
    rcases hno with hno | ⟨c, hc, hblank, hplus, hnodigit⟩ | hwithin
    · exact absurd hisDigit (hno digit hdigit)
    · rcases hplaces c hc with h | h | h
      · exact absurd h hblank
      · exact absurd h hplus
      · exact absurd h hnodigit
    · exact absurd hwithin hspells.not_blankWithin

theorem limit_of_text_signed :
    let text? := fun name => if name = arenaLimitVariable then some " +007\t" else some "-1"
    (text? Knob.arenaLimit.name = some " +007\t" ∧ Spells " +007\t" 7 ∧ 7 < UInt64.size ∧
      Knob.arenaLimit.limit (ofEnvironment text?) = 7) ∧
    text? Knob.recordLimit.name = some "-1" ∧
      (∃ c ∈ "-1".toList, ¬ Text.isBlank c ∧ c ≠ '+' ∧ ¬ c.isDigit) ∧
      Knob.recordLimit.limit (ofEnvironment text?) = 16 * 1024 * 1024 := by
  intro text?
  have harena : text? Knob.arenaLimit.name = some " +007\t" := by decide
  have hrecord : text? Knob.recordLimit.name = some "-1" := by decide
  have hchars : " +007\t".toList = [' '] ++ (['+'] ++ ['0', '0', '7']) ++ ['\t'] := by decide
  have hspells : Spells " +007\t" (Nat.ofDigitChars 10 ['0', '0', '7'] 0) :=
    .intro hchars (List.forall_mem_singleton.mpr (by decide))
      (List.forall_mem_singleton.mpr (by decide)) (.inr rfl) (by decide) (by simp)
  have hminus : ∃ c ∈ "-1".toList, ¬ Text.isBlank c ∧ c ≠ '+' ∧ ¬ c.isDigit :=
    ⟨'-', by decide, by decide, by decide, by decide⟩
  exact ⟨⟨harena, hspells, by decide,
      (limit_of_text .arenaLimit text?).1 _ 7 harena hspells (by decide)⟩,
    hrecord, hminus, (limit_of_text .recordLimit text?).2.2.2.2 _ hrecord (.inr (.inl hminus))⟩

end Settings

end TabletRecords
