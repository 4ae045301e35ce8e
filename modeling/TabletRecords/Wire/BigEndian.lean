/-!
Numbers as base-256 digits, highest first. At a fixed width, writing and reading are inverse: every
number below the capacity of the width is read back, and every list of bytes is written again from
the number that it spells.
-/
namespace TabletRecords.Wire.BigEndian

/-- The lowest `width` digits of a number. -/
def digits : Nat → Nat → List UInt8
  | 0, _ => []
  | width + 1, n => digits width (n / 256) ++ [UInt8.ofNat n]

def value (bytes : List UInt8) : Nat :=
  bytes.foldl (fun n byte => n * 256 + byte.toNat) 0

/-- How many numbers can be told apart by `width` digits. -/
def capacity : Nat → Nat
  | 0 => 1
  | width + 1 => capacity width * 256

@[simp] theorem length_digits (width n : Nat) : (digits width n).length = width := by
  induction width generalizing n with
  | zero => rfl
  | succ width ih => simp [digits, ih]

@[simp] theorem value_append_singleton (bytes : List UInt8) (byte : UInt8) :
    value (bytes ++ [byte]) = value bytes * 256 + byte.toNat := by
  simp [value]

theorem value_digits {width n : Nat} (h : n < capacity width) : value (digits width n) = n := by
  induction width generalizing n with
  | zero =>
    have hn : n = 0 := Nat.lt_one_iff.mp h
    simp [digits, value, hn]
  | succ width ih =>
    have hdiv : n / 256 < capacity width :=
      Nat.div_lt_of_lt_mul (by rwa [Nat.mul_comm])
    rw [digits, value_append_singleton, ih hdiv]
    show n / 256 * 256 + n % 256 = n
    omega

theorem digits_value (bytes : List UInt8) : digits bytes.length (value bytes) = bytes := by
  suffices h : ∀ reversed : List UInt8,
      digits reversed.length (value reversed.reverse) = reversed.reverse by
    simpa using h bytes.reverse
  intro reversed
  induction reversed with
  | nil => rfl
  | cons byte rest ih =>
    have hbyte := byte.toNat_lt
    have hhigh : (value rest.reverse * 256 + byte.toNat) / 256 = value rest.reverse := by omega
    rw [List.reverse_cons, value_append_singleton, List.length_cons, digits, hhigh, ih]
    congr 2
    apply UInt8.toNat_inj.mp
    rw [UInt8.toNat_ofNat']
    omega

theorem value_lt (bytes : List UInt8) : value bytes < capacity bytes.length := by
  suffices h : ∀ reversed : List UInt8, value reversed.reverse < capacity reversed.length by
    simpa using h bytes.reverse
  intro reversed
  induction reversed with
  | nil => exact Nat.one_pos
  | cons byte rest ih =>
    have hbyte := byte.toNat_lt
    rw [List.reverse_cons, value_append_singleton, List.length_cons, capacity]
    omega

end TabletRecords.Wire.BigEndian
