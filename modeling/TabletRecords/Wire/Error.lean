import TabletRecords.Text.Tree

/-!
Why bytes are refused. A reader either finds another version than it knows, or too few bytes, or
bytes that spell no legal value; the last case keeps what was found as data, and the wording of
every case is in `Error.message`.
-/
namespace TabletRecords.Wire

/-- Rules that a value has to satisfy once all of its fields are read. -/
inductive ReadRule where
  | compactionOrder
  | descriptor
  | snapshot
deriving DecidableEq

def ReadRule.complaint : ReadRule → String
  | .compactionOrder => "medium compaction infos out of order"
  | .descriptor => "decoded tablet meta is not valid"
  | .snapshot => "decoded migration param is not valid"

/-- What is wrong with bytes that were there to read. -/
inductive Corruption where
  | invalidBool (byte : UInt8)
  | unknownTag (family : String) (tag : UInt8)
  | lengthOverflow
  | negativeLength (length : Int32)
  | lengthOutside (length least most : Nat)
  | lengthExceeds (length limit : Nat)
  | trailingBytes (count : Nat)
  | unknownFlagBits (bits : UInt64)
  | unknownRestoreStatus (code : UInt64)
  | unknownDataStatus (code : UInt64)
  | reservedReadinessBits (bits : UInt64)
  | duplicateColumn
  | broken (rule : ReadRule) (value : Text.Tree)

def Corruption.message : Corruption → String
  | invalidBool byte => s!"invalid bool byte {byte}"
  | unknownTag family tag => s!"unknown {family} tag {tag}"
  | lengthOverflow => "number too large to fit in target type"
  | negativeLength length => s!"negative record length {length}"
  | lengthOutside length least most => s!"record length {length} outside [{least}, {most}]"
  | lengthExceeds length limit => s!"record length {length} exceeds limit {limit}"
  | trailingBytes count => s!"{count} trailing bytes after record fields"
  | unknownFlagBits bits => "unknown table store flag bits " ++ Text.hexNumber bits.toNat
  | unknownRestoreStatus code => s!"unknown restore status {code}"
  | unknownDataStatus code => s!"unknown data status {code}"
  | reservedReadinessBits bits => "reserved ha status bits set: " ++ Text.hexNumber bits.toNat
  | duplicateColumn => "duplicate autoinc column"
  | broken rule value => rule.complaint ++ ": " ++ value.describe

/-- Why a value cannot be read from bytes, or a record not be written into a buffer. -/
inductive Error where
  | unexpectedVersion (expected actual : Int32)
  | tooSmall (needed remaining : Nat)
  | corrupt (what : Corruption)

def Error.message : Error → String
  | unexpectedVersion expected actual =>
      s!"invalid encoding version: expected {expected}, got {actual}"
  | tooSmall needed remaining => s!"buffer too small: needed {needed} bytes, {remaining} remaining"
  | corrupt what => "corrupt encoding: " ++ what.message

end TabletRecords.Wire
