import TabletRecords.Text.Blank
import TabletRecords.Text.Tree
import TabletRecords.Wire.Cursor

/-!
Settings: the two limits that an installation may set by environment variables. A variable that is
unset, or whose text is no size, leaves its limit at the default.
-/
namespace TabletRecords

structure Settings where
  /-- The most bytes that the lists of one transfer parameter may hold. -/
  arenaLimit : Nat := 64 * 1024 * 1024
  /-- The most bytes of an acceptable record. -/
  recordLimit : Nat := 16 * 1024 * 1024
deriving DecidableEq

namespace Settings

def arenaLimitVariable : String := "MZ_TABLET_PARAM_ARENA_LIMIT_BYTES"

def recordLimitVariable : String := "MZ_TABLET_MAX_RECORD_BYTES"

def decimal? (digits : List Char) : Option Nat :=
  if !digits.isEmpty && digits.all Char.isDigit then
    some (digits.foldl (fun n digit => n * 10 + (digit.toNat - '0'.toNat)) 0)
  else none

/-- The size that a text denotes: decimal digits, after at most one plus sign, between any white
space, for a number that an address can hold. -/
def size? (text : String) : Option Nat :=
  let digits :=
    match Text.strip text.toList with
    | '+' :: rest => rest
    | chars => chars
  (decimal? digits).filter (· ≤ Wire.sizeMax)

def ofEnvironment (text? : String → Option String) : Settings where
  arenaLimit := ((text? arenaLimitVariable).bind size?).getD ({} : Settings).arenaLimit
  recordLimit := ((text? recordLimitVariable).bind size?).getD ({} : Settings).recordLimit

instance : Inhabited Settings := ⟨{}⟩

instance : Text.Printable Settings :=
  ⟨fun settings => .record "TabletMetaConfig"
    [("param_arena_limit_bytes", Text.tree settings.arenaLimit),
     ("max_record_bytes", Text.tree settings.recordLimit)]⟩

end Settings

end TabletRecords
