import TabletRecords.Charging

/-!
Building storage schemas: those of user tables, and the placeholder of a tablet whose restore has
not started, which no query may read by.
-/
namespace TabletRecords.StorageSchema

open Arena (ArenaId)

def ofColumns (schemaVersion : Int64) (compatMode : CompatMode)
    (rowkeyColumns : List RowkeyColumn) (columns : List Column) (arena : ArenaId) :
    Charging (Held StorageSchema) :=
  let schema := { blank with schemaVersion, compatMode, rowkeyColumns, columns }
  Charging.holding arena (format.charges schema) do
    unless schema.isValid do Charging.refuse (.schema schema)
    return ⟨schema, arena⟩

def placeholderRowkey : RowkeyColumn := ⟨firstUserColumn, .tinyInt, .ascending⟩

def placeholderColumn : Column := ⟨.tinyInt, true, 0⟩

/-- The schema of a tablet whose restore has not started: one rowkey column and nothing else. -/
def placeholder : StorageSchema :=
  { blank with
    compatMode := .mySql
    rowkeyColumns := [placeholderRowkey]
    columns := [placeholderColumn]
    isPlaceholder := true }

def checkQueryable (schema : StorageSchema) : Except Fault Unit :=
  if schema.isPlaceholder then .error (.argument .placeholderSchema) else .ok ()

end TabletRecords.StorageSchema
