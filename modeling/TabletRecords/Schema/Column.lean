import TabletRecords.Wire.Tagged

/-!
Columns of a storage schema: the types of their values, and the order of the rowkey.
-/
namespace TabletRecords

inductive ColumnType where
  | null
  | tinyInt
  | smallInt
  | int
  | bigInt
  | uint64
  | float
  | double
  | number
  | dateTime
  | timestamp
  | varchar
  | char
  | text
  | lob
deriving DecidableEq

instance : Wire.Tagged ColumnType where
  family := "ColumnType"
  members :=
    [.null, .tinyInt, .smallInt, .int, .bigInt, .uint64, .float, .double, .number, .dateTime,
      .timestamp, .varchar, .char, .text, .lob]
  label
    | .null => "Null"
    | .tinyInt => "TinyInt"
    | .smallInt => "SmallInt"
    | .int => "Int"
    | .bigInt => "BigInt"
    | .uint64 => "UInt64"
    | .float => "Float"
    | .double => "Double"
    | .number => "Number"
    | .dateTime => "DateTime"
    | .timestamp => "Timestamp"
    | .varchar => "Varchar"
    | .char => "Char"
    | .text => "Text"
    | .lob => "Lob"
  mem_members value := by cases value <;> decide
  nodup := by decide
  length_le := by decide

inductive SortOrder where
  | ascending
  | descending
deriving DecidableEq

instance : Wire.Tagged SortOrder where
  family := "SortOrder"
  members := [.ascending, .descending]
  label
    | .ascending => "Asc"
    | .descending => "Desc"
  mem_members value := by cases value <;> decide
  nodup := by decide
  length_le := by decide

structure RowkeyColumn where
  columnIndex : UInt64
  valueType : ColumnType
  order : SortOrder
deriving DecidableEq

namespace RowkeyColumn

def format : Wire.Format RowkeyColumn :=
  (Wire.Format.uint64.pair <| (Wire.Format.tagged ColumnType).pair <|
    Wire.Format.tagged SortOrder).map
    (fun (columnIndex, valueType, order) => { columnIndex, valueType, order })
    (fun column => (column.columnIndex, column.valueType, column.order))

instance : Text.Printable RowkeyColumn :=
  ⟨fun column => .record "RowkeyColumn"
    [("column_idx", Text.tree column.columnIndex), ("meta_type", Text.tree column.valueType),
     ("order", Text.tree column.order)]⟩

end RowkeyColumn

structure Column where
  valueType : ColumnType
  /-- Whether its values are stored; those of a virtual column are computed on each read. -/
  isStored : Bool
  defaultChecksum : Int64
deriving DecidableEq

namespace Column

def format : Wire.Format Column :=
  ((Wire.Format.tagged ColumnType).pair <| Wire.Format.bool.pair Wire.Format.int64).map
    (fun (valueType, isStored, defaultChecksum) => { valueType, isStored, defaultChecksum })
    (fun column => (column.valueType, column.isStored, column.defaultChecksum))

instance : Text.Printable Column :=
  ⟨fun column => .record "ColumnSchema"
    [("meta_type", Text.tree column.valueType),
     ("is_column_stored_in_sstable", Text.tree column.isStored),
     ("default_checksum", Text.tree column.defaultChecksum)]⟩

end Column

end TabletRecords
