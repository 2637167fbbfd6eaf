import SheetSql.Schema.Json

namespace SheetSql

/-! The fields of a table. -/

inductive CellType where
  | number | text | boolean | datetime
  deriving DecidableEq, Repr, Inhabited

inductive Storage where
  | integer | real | text | boolean | datetime | json
  deriving DecidableEq, Repr, Inhabited

def Storage.naturalType? : Storage → Option CellType
  | .integer | .real => some .number
  | .text => some .text
  | .boolean => some .boolean
  | .datetime => some .datetime
  | .json => none

structure Formatting where
  date : Option String
  time : Option String
  timeZone : Option String
  deriving DecidableEq, Repr, Inhabited

structure Field where
  id : String
  column : String
  isMultiple : Bool
  isLookup : Bool
  storage : Storage
  cellType : Option CellType
  formatting : Option Formatting
  deriving DecidableEq, Repr, Inhabited

namespace Field

def ofStorage (id column : String) (storage : Storage) : Field :=
  { id, column, isMultiple := false, isLookup := false, storage,
    cellType := storage.naturalType?, formatting := none }

def multiple (field : Field) : Field := { field with isMultiple := true }

def lookup (field : Field) : Field := { field with isLookup := true }

def withCellType (field : Field) (type : CellType) : Field :=
  { field with cellType := some type }

def withFormatting (field : Field) (formatting : Formatting) : Field :=
  { field with formatting := some formatting }

end Field

namespace CellType

def names : List (String × CellType) :=
  [("number", .number), ("string", .text), ("boolean", .boolean), ("datetime", .datetime)]

def name : CellType → String
  | .number => "number"
  | .text => "string"
  | .boolean => "boolean"
  | .datetime => "datetime"

instance : Json.Codec CellType where
  read? := Json.choice? names
  write type := .text type.name

end CellType

namespace Storage

def names : List (String × Storage) :=
  [("Integer", .integer), ("Real", .real), ("Text", .text), ("Boolean", .boolean),
   ("DateTime", .datetime), ("Json", .json)]

def name : Storage → String
  | .integer => "Integer"
  | .real => "Real"
  | .text => "Text"
  | .boolean => "Boolean"
  | .datetime => "DateTime"
  | .json => "Json"

instance : Json.Codec Storage where
  read? := Json.choice? names
  write storage := .text storage.name

end Storage

instance : Json.Codec Formatting where
  read? json := do
    guard (json.isRecord 3)
    let date ← json.defaulted none 0 "date"
    let time ← json.defaulted none 1 "time"
    let timeZone ← json.defaulted none 2 "timeZone"
    return { date, time, timeZone }
  write formatting :=
    .object [("date", Json.write formatting.date), ("time", Json.write formatting.time),
      ("timeZone", Json.write formatting.timeZone)]

instance : Json.Codec Field where
  read? json := do
    guard (json.isRecord 7)
    let id ← json.required 0 "id"
    let column ← json.required 1 "dbFieldName"
    let isMultiple ← json.defaulted false 2 "isMultiple"
    let isLookup ← json.defaulted false 3 "isLookup"
    let storage ← json.required 4 "storageType"
    let cellType ← json.defaulted none 5 "cellValueType"
    let formatting ← json.defaulted none 6 "formatting"
    return { id, column, isMultiple, isLookup, storage, cellType, formatting }
  write field :=
    .object [("id", Json.write field.id), ("dbFieldName", Json.write field.column),
      ("isMultiple", Json.write field.isMultiple), ("isLookup", Json.write field.isLookup),
      ("storageType", Json.write field.storage), ("cellValueType", Json.write field.cellType),
      ("formatting", Json.write field.formatting)]

end SheetSql
