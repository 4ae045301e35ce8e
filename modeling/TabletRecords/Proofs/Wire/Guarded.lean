import TabletRecords.Proofs.Wire.Decoder
import TabletRecords.Proofs.Wire.Framing

/-!
Guarded reads. Here a place in a buffer is an index into the whole of it, sums and differences are
those of addresses, and whatever would stop a program without an answer is there as a trap. Reads of
every format do as their decoders say, and no trap is ever sprung: each step is safe by a check that
has been made before it.
-/
namespace TabletRecords.Wire

open Arena (Account)
open Outcome

/-- What stops a program without an answer. -/
inductive Trap where
  | overflow
  | outOfRange
  | capacity
  | unexpected
deriving DecidableEq

abbrev Checked := Except Trap

/-- The most memory that can be asked for at once. -/
def capacityMax : Nat := sizeMax / 2

namespace Checked

variable {α : Type}

def add (a b : Nat) : Checked Nat := if a + b ≤ sizeMax then .ok (a + b) else .error .overflow

def sub (a b : Nat) : Checked Nat := if b ≤ a then .ok (a - b) else .error .overflow

def slice (buffer : List UInt8) (first stop : Nat) : Checked (List UInt8) :=
  if first ≤ stop ∧ stop ≤ buffer.length then .ok ((buffer.drop first).take (stop - first))
  else .error .outOfRange

def reserve (count size : Nat) : Checked Unit :=
  if count * size ≤ capacityMax then .ok () else .error .capacity

def expect : Option α → Checked α
  | some value => .ok value
  | none => .error .unexpected

end Checked

structure Place where
  position : Nat
  account : Account
  charged : Nat := 0

namespace Place

def undone (place : Place) : Account := place.account.release place.charged

def state (place : Place) (buffer : List UInt8) : IntakeState :=
  ⟨⟨buffer.drop place.position, place.position⟩, place.account, place.charged⟩

end Place

abbrev Guarded := ExceptT IntakeError (StateT Place Checked)

namespace Guarded

variable {α β : Type}

def check (step : Checked α) : Guarded α := fun place => do return (.ok (← step), place)

def refuse (error : Error) : Guarded α := throw (.wire error)

def remaining (buffer : List UInt8) : Guarded Nat := do
  check (Checked.sub buffer.length (← get).position)

def take (buffer : List UInt8) (n : Nat) : Guarded (List UInt8) := do
  let left ← remaining buffer
  if left < n then refuse (.tooSmall n left)
  else
    let place ← get
    let stop ← check (Checked.add place.position n)
    let bytes ← check (Checked.slice buffer place.position stop)
    set { place with position := stop }
    return bytes

def array (buffer : List UInt8) (width : Nat) : Guarded (List UInt8) := do
  let bytes ← take buffer width
  check (Checked.expect (if bytes.length = width then some bytes else none))

def count (buffer : List UInt8) (least memory : Nat) : Guarded Nat := do
  let bytes ← array buffer 4
  let n := (UInt32.ofNat (BigEndian.value bytes)).toNat
  let needed := min (n * least) sizeMax
  let left ← remaining buffer
  if left < needed then refuse (.tooSmall needed left)
  else
    check (Checked.reserve n memory)
    return n

def charge (size : Nat) : Guarded Unit := do
  let place ← get
  match place.account.charge size with
  | .ok account => set { place with account, charged := place.charged + size }
  | .error refusal => throw (.arena refusal)

/-- Read what a decoder says, from a place in a buffer on. -/
def exec (buffer : List UInt8) : Decoder α → Guarded α
  | .done value => return value
  | .refuse error => refuse error
  | .array width next => do exec buffer (next (← array buffer width))
  | .count least memory _ next => do exec buffer (next (← count buffer least memory))
  | .charge size next => do
      charge size
      exec buffer next

def finished (buffer : List UInt8) : Guarded Unit := do
  match ← remaining buffer with
  | 0 => return ()
  | n => refuse (.corrupt (.trailingBytes n))

def outcome : Except IntakeError α → IntakeState → EStateM.Result IntakeError IntakeState α
  | .ok value, state => .ok value state
  | .error error, state => .error error state

/-- A guarded read springs no trap, wherever in a buffer it starts, and does as a read of the rest
of the buffer. -/
def Simulates (buffer : List UInt8) (guarded : Guarded α) (read : Intake α) : Prop :=
  ∀ place, place.position ≤ buffer.length → ∃ answer place',
    guarded place = .ok (answer, place') ∧ place'.position ≤ buffer.length ∧
      read (place.state buffer) = outcome answer (place'.state buffer)

variable {buffer : List UInt8}

theorem pure_simulates (value : α) : Simulates buffer (pure value) (pure value) :=
  fun place within => ⟨.ok value, place, rfl, within, rfl⟩

theorem refuse_simulates (error : Error) :
    Simulates buffer (refuse error : Guarded α) (Intake.refuse error) :=
  fun place within => ⟨.error (.wire error), place, rfl, within, rfl⟩

theorem bind_eq_of_ok {guarded : Guarded α} {next : α → Guarded β} {place middle : Place} {value : α}
    (done : guarded place = .ok (.ok value, middle)) : (guarded >>= next) place = next value middle := by
  show StateT.bind guarded _ place = _
  simp only [StateT.bind, done]
  rfl

theorem bind_eq_of_error {guarded : Guarded α} {next : α → Guarded β} {place middle : Place}
    {error : IntakeError} (failed : guarded place = .ok (.error error, middle)) :
    (guarded >>= next) place = .ok (.error error, middle) := by
  show StateT.bind guarded _ place = _
  simp only [StateT.bind, failed]
  rfl

theorem check_eq_of_ok {step : Checked α} {value : α} (passes : step = .ok value) (place : Place) :
    check step place = .ok (.ok value, place) := by
  rw [passes]
  rfl

theorem Simulates.bind {guarded : Guarded α} {read : Intake α} {next : α → Guarded β}
    {next' : α → Intake β} (first : Simulates buffer guarded read)
    (later : ∀ value, Simulates buffer (next value) (next' value)) :
    Simulates buffer (guarded >>= next) (read >>= next') := by
  intro place within
  obtain ⟨answer, middle, done, within, same⟩ := first place within
  cases answer with
  | error error =>
    refine ⟨.error error, middle, bind_eq_of_error done, within, ?_⟩
    show EStateM.bind read next' _ = _
    simp only [EStateM.bind, same]
    rfl
  | ok value =>
    obtain ⟨answer, after, done', within, same'⟩ := later value middle within
    refine ⟨answer, after, (bind_eq_of_ok done).trans done', within, ?_⟩
    show EStateM.bind read next' _ = _
    simp only [EStateM.bind, same]
    exact same'

theorem Simulates.ite {p : Prop} [Decidable p] {error : Error} {guarded : Guarded α}
    {read : Reader α} (later : Simulates buffer guarded (Intake.ofReader read)) :
    Simulates buffer (if p then refuse error else guarded)
      (Intake.ofReader (if p then throw error else read)) := by
  by_cases h : p
  · rw [if_pos h, if_pos h]
    exact refuse_simulates error
  · rwa [if_neg h, if_neg h]

theorem remaining_eq {place : Place} (within : place.position ≤ buffer.length) :
    remaining buffer place = .ok (.ok (buffer.length - place.position), place) :=
  (bind_eq_of_ok rfl).trans (check_eq_of_ok (if_pos within) place)

theorem remaining_simulates :
    Simulates buffer (remaining buffer) (Intake.ofReader Reader.remaining) := by
  intro place within
  refine ⟨.ok _, place, remaining_eq within, within, ?_⟩
  rw [← List.length_drop]
  rfl

theorem take_simulates (addressable : buffer.length ≤ sizeMax) (n : Nat) :
    Simulates buffer (take buffer n) (Intake.ofReader (Reader.take n)) := by
  intro place within
  by_cases short : buffer.length - place.position < n
  · refine ⟨.error (.wire (.tooSmall n (buffer.length - place.position))), place, ?_, within, ?_⟩
    · rw [take, bind_eq_of_ok (remaining_eq within), if_pos short]
      rfl
    · simp [Intake.ofReader, Reader.take, Place.state, Cursor.remaining, short, outcome]
  · have stop : place.position + n ≤ buffer.length := by omega
    have sum : Checked.add place.position n = .ok (place.position + n) := if_pos (by omega)
    have cut : Checked.slice buffer place.position (place.position + n) =
        .ok ((buffer.drop place.position).take n) := by
      rw [Checked.slice, if_pos (by omega), Nat.add_sub_cancel_left]
    refine ⟨.ok ((buffer.drop place.position).take n),
      { place with position := place.position + n }, ?_, stop, ?_⟩
    · rw [take, bind_eq_of_ok (remaining_eq within), if_neg short, bind_eq_of_ok rfl,
        bind_eq_of_ok (check_eq_of_ok sum place), bind_eq_of_ok (check_eq_of_ok cut place)]
      rfl
    · simp [Intake.ofReader, Reader.take, Place.state, Cursor.remaining, Cursor.advance, short,
        outcome]

theorem array_simulates (addressable : buffer.length ≤ sizeMax) (width : Nat) :
    Simulates buffer (array buffer width) (Intake.ofReader (Reader.take width)) := by
  intro place within
  obtain ⟨answer, place', done, within, same⟩ := take_simulates addressable width place within
  cases answer with
  | error error => exact ⟨.error error, place', bind_eq_of_error done, within, same⟩
  | ok bytes =>
    have length : bytes.length = width := by
      obtain ⟨cursor, taken, -⟩ := Intake.ofReader_eq_ok_iff.mp same
      exact ((Reader.take_exact width).eq_ok_iff.mp taken).1
    refine ⟨.ok bytes, place', (bind_eq_of_ok done).trans (check_eq_of_ok ?_ place'), within, same⟩
    rw [if_pos length]
    rfl

theorem reserve_eq_ok (n : UInt32) {memory : Nat} (small : memory < 0x80000000) :
    Checked.reserve n.toNat memory = .ok () := by
  refine if_pos ?_
  have bound : n.toNat * memory ≤ 4294967295 * 2147483647 :=
    Nat.mul_le_mul (Nat.le_of_lt_succ n.toNat_lt) (Nat.le_of_lt_succ small)
  exact Nat.le_trans bound (by decide)

theorem count_simulates (addressable : buffer.length ≤ sizeMax) {least memory : Nat}
    (small : memory < 0x80000000) :
    Simulates buffer (count buffer least memory) (Intake.ofReader (Reader.count least)) := by
  simp only [Reader.count, Reader.uint32, Reader.number, bind_map_left, Intake.ofReader_bind,
    throw_bind]
  refine (array_simulates addressable 4).bind fun bytes => ?_
  refine remaining_simulates.bind fun left => .ite fun place within => ?_
  exact ⟨_, place, bind_eq_of_ok (check_eq_of_ok (reserve_eq_ok _ small) place), within, rfl⟩

theorem charge_simulates (size : Nat) : Simulates buffer (charge size) (Intake.charge size) := by
  intro place within
  cases charged : place.account.charge size with
  | ok account =>
    refine ⟨.ok (), { place with account, charged := place.charged + size }, ?_, within, ?_⟩
    · rw [charge, bind_eq_of_ok rfl]
      simp only [charged]
      rfl
    · simp only [Intake.charge, Place.state, charged]
      rfl
  | error refusal =>
    refine ⟨.error (.arena refusal), place, ?_, within, ?_⟩
    · rw [charge, bind_eq_of_ok rfl]
      simp only [charged]
      rfl
    · simp only [Intake.charge, Place.state, charged]
      rfl

theorem exec_simulates (addressable : buffer.length ≤ sizeMax) (decoder : Decoder α) :
    Simulates buffer (exec buffer decoder) decoder.run := by
  induction decoder with
  | done value => exact pure_simulates value
  | refuse error => exact refuse_simulates error
  | array width next ih => exact (array_simulates addressable width).bind ih
  | count least memory small next ih => exact (count_simulates addressable small).bind ih
  | charge size next ih => exact (charge_simulates size).bind fun _ => ih

theorem finished_simulates :
    Simulates buffer (finished buffer) (Intake.ofReader Reader.finished) := by
  rw [Reader.finished, Intake.ofReader_bind]
  refine remaining_simulates.bind fun left => ?_
  cases left with
  | zero => exact pure_simulates ()
  | succ n => exact refuse_simulates _

def header (expected : Int32) (most : Nat) (buffer : List UInt8) : Guarded Header := do
  let available ← remaining buffer
  let version ← exec buffer (Format.Decodes.decoder Format.int32)
  if version ≠ expected then refuse (.unexpectedVersion expected version)
  else
    let length ← exec buffer (Format.Decodes.decoder Format.int32)
    let header : Header := ⟨version, length⟩
    if length < 0 then refuse (.corrupt (.negativeLength length))
    else if header.size < headerSize ∨ most < header.size then
      refuse (.corrupt (.lengthOutside header.size headerSize most))
    else if available < header.size then refuse (.tooSmall header.size available)
    else return header

theorem int32_simulates (addressable : buffer.length ≤ sizeMax) :
    Simulates buffer (exec buffer (Format.Decodes.decoder Format.int32))
      (Intake.ofReader Reader.int32) := by
  have read := exec_simulates addressable (Format.Decodes.decoder Format.int32)
  rwa [Format.Decodes.run_decoder] at read

theorem header_simulates (addressable : buffer.length ≤ sizeMax) (expected : Int32) (most : Nat) :
    Simulates buffer (header expected most buffer)
      (Intake.ofReader (Header.read expected most)) := by
  simp only [Header.read, Reader.corrupt, throw_bind]
  rw [Intake.ofReader_bind]
  refine remaining_simulates.bind fun available => ?_
  rw [Intake.ofReader_bind]
  refine (int32_simulates addressable).bind fun version => .ite ?_
  rw [Intake.ofReader_bind]
  refine (int32_simulates addressable).bind fun length => .ite <| .ite <| .ite ?_
  exact pure_simulates _

def length (header : Header) : Checked Nat :=
  Checked.expect (if 0 ≤ header.length then some header.size else none)

theorem length_eq_ok {header : Header} (nonneg : 0 ≤ header.length) :
    length header = .ok header.size := by
  rw [length, if_pos nonneg]
  rfl

def body (buffer : List UInt8) (position : Nat) (header : Header) : Checked (List UInt8) := do
  let first ← Checked.add position headerSize
  let stop ← Checked.add position (← length header)
  Checked.slice buffer first stop

def readRecord (version : Int32) (most : Nat) (buffer : List UInt8) (position : Nat) :
    Checked (Except IntakeError (Header × List UInt8)) :=
  if buffer.length < position then return .error (.wire (.tooSmall position buffer.length))
  else do
    match ← header version most buffer { position, account := { label := "" } } with
    | (.error error, _) => return .error error
    | (.ok header, _) => return .ok (header, ← body buffer position header)

theorem body_eq_of_read (addressable : buffer.length ≤ sizeMax) {version : Int32}
    {most position : Nat} {header : Header} {after : Cursor}
    (taken : Header.read version most ⟨buffer.drop position, position⟩ = .ok header after) :
    body buffer position header = .ok (after.rest.take (header.size - headerSize)) := by
  obtain ⟨⟨-, nonneg, least, -, room⟩, passes⟩ := Header.read_eq_ok_iff.mp taken
  replace room : header.size ≤ (buffer.drop position).length := room
  rw [List.length_drop] at room
  have nonempty : 0 < headerSize := by decide
  have first : Checked.add position headerSize = .ok (position + headerSize) := if_pos (by omega)
  have stop : Checked.add position header.size = .ok (position + header.size) := if_pos (by omega)
  have rest : after.rest = buffer.drop (position + headerSize) := by
    rw [← List.drop_drop, show buffer.drop position = _ from passes.rest,
      ← Header.length_bytes header, List.drop_left]
  rw [body, length_eq_ok nonneg, first, except_ok_bind, except_ok_bind, stop, except_ok_bind, Checked.slice,
    if_pos (by omega), rest, Nat.add_sub_add_left]

theorem readRecord_eq (addressable : buffer.length ≤ sizeMax) (version : Int32) (most position : Nat) :
    readRecord version most buffer position =
      .ok ((Record.read version most buffer position).mapError .wire) := by
  unfold readRecord Record.read Cursor.at?
  by_cases outside : buffer.length < position
  · simp only [outside, ↓reduceIte]
    rfl
  simp only [outside, ↓reduceIte]
  obtain ⟨answer, place, done, -, same⟩ := header_simulates addressable version most
    { position, account := { label := "" } } (Nat.not_lt.mp outside)
  rw [done]
  cases taken : Header.read version most ⟨buffer.drop position, position⟩ with
  | error error after =>
    simp only [Intake.ofReader, Place.state, taken] at same
    cases answer with
    | ok header => cases same
    | error error' =>
      injection same with same
      rw [← same]
      simp only [taken, except_ok_bind]
      rfl
  | ok header after =>
    simp only [Intake.ofReader, Place.state, taken] at same
    cases answer with
    | error error => cases same
    | ok header' =>
      injection same with same
      rw [← same]
      simp only [taken, except_ok_bind, body_eq_of_read addressable taken]
      rfl

end Guarded

end TabletRecords.Wire
