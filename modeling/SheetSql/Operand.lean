import SheetSql.Job
import SheetSql.Schema.Hint
import SheetSql.Sql.Build
import SheetSql.Sql.Literal

namespace SheetSql

/-! Arguments, with all that is known about them. -/

inductive Kind where
  /-- The literal `NULL` or an empty text. -/
  | blank
  | number
  | text
  | boolean
  | datetime
  /-- A JSON value, or a field of many values. -/
  | json
  | unknown
  deriving DecidableEq, Repr, Inhabited

structure Operand where
  sql : String
  kind : Kind
  isLiteral : Bool
  facts : Facts
  field : Option Field
  deriving Repr, Inhabited

def Facts.kind (facts : Facts) : Kind :=
  if facts.isJsonLike then .json
  else if facts.isBooleanLike then .boolean
  else if facts.isTrustedNumber then .number
  else if facts.isDatetimeLike then .datetime
  else if facts.isTextLike then .text
  else .unknown

def literalKind? (sql : String) : Option Kind :=
  if Sql.isNullLiteral sql then some .blank
  else
    match Sql.numberLiteral? sql, Sql.textLiteral? sql, Sql.boolLiteral? sql with
    | some _, _, _ => some .number
    | none, some content, _ => some (if content.isEmpty then .blank else .text)
    | none, none, some _ => some .boolean
    | none, none, none => none

namespace Operand

def ofField (sql : String) (field : Field) : Operand :=
  let facts := Facts.ofHint (.ofField field)
  { sql, kind := facts.kind, isLiteral := false, facts, field := some field }

def ofHint (sql : String) (hint : Option Hint) : Operand :=
  let facts := (hint.map Facts.ofHint).getD .unknown
  { sql, kind := facts.kind, isLiteral := false, facts, field := hint.bind (·.field) }

def fieldOf? (job : Job) (sql : String) : Option Field :=
  (Sql.reference? sql).bind fun reference => job.catalog.byColumn? reference.name

/--
What is known about an argument. That it is a constant counts most, then its hint, and then the
field of the column that it names.
-/
def classify (job : Job) (sql : String) (hint : Option Hint) : Operand :=
  match literalKind? sql with
  | some kind => { sql, kind, isLiteral := true, facts := .unknown, field := none }
  | none =>
    let hinted := ofHint sql hint
    if hinted.kind ≠ .unknown then hinted
    else
      match fieldOf? job sql with
      | some field => ofField sql field
      | none => hinted

def expr (operand : Operand) : Expr := .fragment operand.sql

def isBlank (operand : Operand) : Bool := operand.kind == .blank

def isTextLike (operand : Operand) : Bool :=
  match operand.kind with
  | .text => true
  | .json => operand.facts.isTextLike
  | _ => false

def isNumberLike (operand : Operand) : Bool :=
  match operand.kind with
  | .number => true
  | .json => operand.facts.type == some .number
  | _ => false

def isDatetimeLike (operand : Operand) : Bool :=
  match operand.kind with
  | .datetime => true
  | .json => operand.facts.isDatetimeLike && !operand.facts.isMultiValue
  | _ => false

def isMultiValue (operand : Operand) : Bool :=
  operand.kind == .json && operand.facts.isMultiValue

end Operand

end SheetSql
