import SheetSql.Schema.Field

namespace SheetSql

/-! What is known about an argument besides its SQL text. -/

structure Hint where
  declared : Option CellType
  isReference : Bool
  field : Option Field
  deriving DecidableEq, Repr, Inhabited

namespace Hint

def empty : Hint := ⟨none, false, none⟩

def ofField (field : Field) : Hint := ⟨none, true, some field⟩

end Hint

instance : Json.Codec Hint where
  read? json := do
    guard (json.isRecord 3)
    let declared ← json.defaulted none 0 "declaredType"
    let isReference ← json.defaulted false 1 "isFieldReference"
    let field ← json.defaulted none 2 "field"
    return { declared, isReference, field }
  write hint :=
    .object [("declaredType", Json.write hint.declared),
      ("isFieldReference", Json.write hint.isReference), ("field", Json.write hint.field)]

structure Facts where
  isKnown : Bool
  type : Option CellType
  isReference : Bool
  isMultiValue : Bool
  isJson : Bool
  storage : Option Storage
  cellType : Option CellType
  deriving DecidableEq, Repr, Inhabited

namespace Facts

def unknown : Facts :=
  { isKnown := false, type := none, isReference := false, isMultiValue := false,
    isJson := false, storage := none, cellType := none }

/--
The facts of a hint. The declared type counts before that of the field and that before the one of
the storage; JSON of no type is text. A lookup that is stored as JSON has many values.
-/
def ofHint (hint : Hint) : Facts :=
  match hint.field with
  | none =>
    { unknown with isKnown := true, type := hint.declared, isReference := hint.isReference }
  | some field =>
    let isJson := field.storage == .json
    { isKnown := true
      type :=
        (((hint.declared.or field.cellType).or field.storage.naturalType?).or
          (if isJson then some .text else none))
      isReference := hint.isReference
      isMultiValue := field.isMultiple || (field.isLookup && isJson)
      isJson
      storage := some field.storage
      cellType := field.cellType }

def ofArgument (hints : List Hint) (position : Nat) : Facts :=
  (hints[position]?.map ofHint).getD unknown

def isJsonLike (facts : Facts) : Bool :=
  facts.isJson || facts.isMultiValue

def isTrustedNumber (facts : Facts) : Bool :=
  facts.type == some .number && !facts.isJsonLike

def isTextLike (facts : Facts) : Bool :=
  facts.type == some .text &&
    (!facts.isJson ||
      (!facts.isMultiValue && (facts.cellType == none || facts.cellType == some .text)))

def isDatetimeLike (facts : Facts) : Bool :=
  facts.type == some .datetime

def isBooleanLike (facts : Facts) : Bool :=
  facts.type == some .boolean && !facts.isJson

end Facts

end SheetSql
