import SheetSql.Coerce.Datetime
import SheetSql.Coerce.Number
import SheetSql.Coerce.Truth
import SheetSql.Operand
import SheetSql.Text.Blank

namespace SheetSql

/-! Arguments as numbers, texts, truth values and moments. -/

structure Site where
  job : Job
  target : Target
  operation : Operation
  deriving Repr, Inhabited

namespace Site

open Coerce

def clock (site : Site) (operand : Operand) : WallClock :=
  let zone := site.job.zoneOf operand.field
  ⟨zone.name, site.job.offsetMinutes zone⟩

def needSubquery (site : Site) : Except Error Unit :=
  match site.target.placement with
  | .select => .ok ()
  | .generated => .error (.needsSubquery site.operation)

def toNumber (site : Site) (operand : Operand) : Except Error Expr :=
  let e := operand.expr
  match operand.kind with
  | .blank => .ok .null
  | .number => .ok (e.cast .double)
  | .boolean => .ok (.caseWhen [⟨e, .number "1.0"⟩, ⟨e.not, .number "0.0"⟩] none)
  | .json => do
      site.needSubquery
      return jsonNumber site.target.dialect "SUM" e
  | .text | .datetime | .unknown => .ok (looseNumber site.target.dialect e)

def toNumberOrZero (site : Site) (operand : Operand) : Except Error Expr := do
  return (← site.toNumber operand).orElse 0

def toText (site : Site) (operand : Operand) : Except Error Expr :=
  let e := operand.expr
  let dialect := site.target.dialect
  match operand.kind with
  | .blank | .text => .ok e
  | .json =>
    match site.target.placement with
    | .select => .ok (jsonJoin dialect (.text ", ") e)
    | .generated =>
      if operand.isMultiValue then .error (.needsSubquery site.operation)
      else .ok (jsonText dialect e)
  | .boolean => .ok (.caseWhen [⟨e, .text "true"⟩, ⟨e.not, .text "false"⟩] none)
  | .number =>
    if operand.isLiteral then .ok (.text (String.ofList (Text.bare operand.sql.toList)))
    else .ok (numberText dialect e)
  | .datetime => .ok (datetimeText dialect e)
  | .unknown => .ok (e.cast .text)

def toTextOrEmpty (site : Site) (operand : Operand) : Except Error Expr :=
  if operand.isBlank then .ok (.text "")
  else do return (← site.toText operand).orElse (.text "")

def toBool (site : Site) (operand : Operand) : Except Error Expr :=
  let e := operand.expr
  match operand.kind with
  | .blank => .ok (.bool false)
  | .boolean => .ok (boolTruth site.target.dialect e)
  | .json => .ok (jsonTruth e)
  | .number => do return (← site.toNumberOrZero operand).ne 0
  | .text =>
    .ok (.member (.call "LOWER" [e.orElse (.text "")]) [.text "", .text "null"] true)
  | .datetime => .ok e.isNotNull
  | .unknown => .ok (unknownTruth site.target e)

def toDatetime (site : Site) (operand : Operand) : Expr :=
  let e := operand.expr
  let dialect := site.target.dialect
  match operand.kind with
  | .blank | .number | .boolean => .null
  | .datetime => normalDatetime dialect e
  | .json => parseIso dialect (site.clock operand) (jsonText dialect e)
  | .text | .unknown => parseIso dialect (site.clock operand) e

end Site

end SheetSql
