import TabletRecords.Identifier
import TabletRecords.Schema.Column

/-!
Storage schemas: what the storage of a tablet has to know of its table in order to read and merge
rows without a catalog. A tablet whose restore has not started carries a placeholder.
-/
namespace TabletRecords

inductive TableType where
  | system
  | user
  | temporary
  | index
  | materializedView
deriving DecidableEq

instance : Wire.Tagged TableType where
  family := "TableType"
  members := [.system, .user, .temporary, .index, .materializedView]
  label
    | .system => "System"
    | .user => "User"
    | .temporary => "Temporary"
    | .index => "Index"
    | .materializedView => "MaterializedView"
  mem_members value := by cases value <;> decide
  nodup := by decide
  length_le := by decide

inductive IndexType where
  | notIndex
  | normalLocal
  | uniqueLocal
  | normalGlobal
  | uniqueGlobal
deriving DecidableEq

instance : Wire.Tagged IndexType where
  family := "IndexType"
  members := [.notIndex, .normalLocal, .uniqueLocal, .normalGlobal, .uniqueGlobal]
  label
    | .notIndex => "NotIndex"
    | .normalLocal => "NormalLocal"
    | .uniqueLocal => "UniqueLocal"
    | .normalGlobal => "NormalGlobal"
    | .uniqueGlobal => "UniqueGlobal"
  mem_members value := by cases value <;> decide
  nodup := by decide
  length_le := by decide

inductive RowStoreType where
  | flat
  | encoding
  | selectiveEncoding
deriving DecidableEq

instance : Wire.Tagged RowStoreType where
  family := "RowStoreType"
  members := [.flat, .encoding, .selectiveEncoding]
  label
    | .flat => "Flat"
    | .encoding => "Encoding"
    | .selectiveEncoding => "SelectiveEncoding"
  mem_members value := by cases value <;> decide
  nodup := by decide
  length_le := by decide

structure StorageSchema where
  formatVersion : Int32
  schemaVersion : Int64
  compatMode : CompatMode
  tableType : TableType
  indexType : IndexType
  rowStoreType : RowStoreType
  usesBloomFilter : Bool
  tabletSize : Int64
  percentFree : Int64
  blockSize : Int64
  progressiveMergeRound : Int64
  progressiveMergeCount : Int64
  masterKeyId : UInt64
  rowkeyColumns : List RowkeyColumn
  columns : List Column
  /-- Whether this schema only stands for one that is not known yet. -/
  isPlaceholder : Bool
deriving DecidableEq

namespace StorageSchema

def currentFormatVersion : Int32 := 1

def defaultTabletSize : Int64 := 128 * 1024 * 1024

def defaultPercentFree : Int64 := 10

def defaultBlockSize : Int64 := 16 * 1024

/-- The lowest number of a user's column; lower ones are those of hidden system columns. -/
def firstUserColumn : UInt64 := 16

/-- A user table of which nothing is known. -/
def blank : StorageSchema where
  formatVersion := currentFormatVersion
  schemaVersion := 0
  compatMode := .invalid
  tableType := .user
  indexType := .notIndex
  rowStoreType := .flat
  usesBloomFilter := false
  tabletSize := defaultTabletSize
  percentFree := defaultPercentFree
  blockSize := defaultBlockSize
  progressiveMergeRound := 0
  progressiveMergeCount := 0
  masterKeyId := 0
  rowkeyColumns := []
  columns := []
  isPlaceholder := false

/-- Rows can be read by a schema that has a rowkey within its columns, a known dialect and a block
size. -/
def isValid (schema : StorageSchema) : Bool :=
  schema.formatVersion = currentFormatVersion
    && 0 ≤ schema.schemaVersion
    && !schema.rowkeyColumns.isEmpty
    && schema.rowkeyColumns.length ≤ schema.columns.length
    && schema.compatMode.isValid
    && 0 < schema.blockSize

def storedColumnCount (schema : StorageSchema) : Nat :=
  (schema.columns.filter (·.isStored)).length

def acceptFormatVersion (version : Int32) : Except Wire.Error Int32 :=
  if version = currentFormatVersion then .ok version
  else .error (.unexpectedVersion currentFormatVersion version)

/-- The fields in the order of the wire, where the mark of a placeholder precedes the two lists. -/
def format : Wire.Format StorageSchema :=
  ((Wire.Format.int32.refine acceptFormatVersion id).pair <| Wire.Format.int64.pair <|
    (Wire.Format.tagged CompatMode).pair <| (Wire.Format.tagged TableType).pair <|
    (Wire.Format.tagged IndexType).pair <| (Wire.Format.tagged RowStoreType).pair <|
    Wire.Format.bool.pair <| Wire.Format.int64.pair <| Wire.Format.int64.pair <|
    Wire.Format.int64.pair <| Wire.Format.int64.pair <| Wire.Format.int64.pair <|
    Wire.Format.uint64.pair <| Wire.Format.bool.pair <|
    (RowkeyColumn.format.counted 10 16).pair <| Column.format.counted 10 16).map
    (fun (formatVersion, schemaVersion, compatMode, tableType, indexType, rowStoreType,
        usesBloomFilter, tabletSize, percentFree, blockSize, progressiveMergeRound,
        progressiveMergeCount, masterKeyId, isPlaceholder, rowkeyColumns, columns) =>
      { formatVersion, schemaVersion, compatMode, tableType, indexType, rowStoreType,
        usesBloomFilter, tabletSize, percentFree, blockSize, progressiveMergeRound,
        progressiveMergeCount, masterKeyId, isPlaceholder, rowkeyColumns, columns })
    (fun schema =>
      (schema.formatVersion, schema.schemaVersion, schema.compatMode, schema.tableType,
        schema.indexType, schema.rowStoreType, schema.usesBloomFilter, schema.tabletSize,
        schema.percentFree, schema.blockSize, schema.progressiveMergeRound,
        schema.progressiveMergeCount, schema.masterKeyId, schema.isPlaceholder,
        schema.rowkeyColumns, schema.columns))

instance : Inhabited StorageSchema := ⟨blank⟩

instance : Text.Printable StorageSchema :=
  ⟨fun schema => .record "StorageSchema"
    [("storage_schema_version", Text.tree schema.formatVersion),
     ("schema_version", Text.tree schema.schemaVersion),
     ("compat_mode", Text.tree schema.compatMode),
     ("table_type", Text.tree schema.tableType),
     ("index_type", Text.tree schema.indexType),
     ("row_store_type", Text.tree schema.rowStoreType),
     ("is_use_bloomfilter", Text.tree schema.usesBloomFilter),
     ("tablet_size", Text.tree schema.tabletSize),
     ("pctfree", Text.tree schema.percentFree),
     ("block_size", Text.tree schema.blockSize),
     ("progressive_merge_round", Text.tree schema.progressiveMergeRound),
     ("progressive_merge_num", Text.tree schema.progressiveMergeCount),
     ("master_key_id", Text.tree schema.masterKeyId),
     ("rowkey_columns", Text.tree schema.rowkeyColumns),
     ("columns", Text.tree schema.columns),
     ("is_placeholder", Text.tree schema.isPlaceholder)]⟩

end StorageSchema

end TabletRecords
