import SheetSql.Clock.TimeUnit
import SheetSql.Compile.Moment

namespace SheetSql

/-! Differences of moments, moments moved, and moments compared up to a unit. -/

open Coerce

namespace Call

def elapsed (dialect : Dialect) (start finish : Moment) (millis : Nat) : Expr :=
  match dialect with
  | .postgres =>
    let epoch := Expr.extract "EPOCH" (start.value - finish.value)
    (Expr.call "TRUNC" [epoch * 1000 / .int millis]).cast .double
  | .sqlite =>
    let days := Expr.call "julianday" [start.value] - .call "julianday" [finish.value]
    ((Expr.call "ROUND" [days * 86400000]).cast .integer / .int millis).cast .double

def monthsApart (dialect : Dialect) (start finish : Moment) : Expr :=
  match dialect with
  | .postgres =>
    let apart := fun name => start.field name - finish.field name
    (apart "YEAR" * 12 + apart "MONTH").cast .integer
  | .sqlite =>
    let apart := fun format =>
      (start.shown format).cast .integer - (finish.shown format).cast .integer
    apart "%Y" * 12 + apart "%m"

def intoMonth (dialect : Dialect) (moment : Moment) : Expr :=
  match dialect with
  | .postgres =>
    .extract "EPOCH" (moment.wall - .call "date_trunc" [.text "month", moment.wall])
  | .sqlite => moment.shown "%d%H%M%f"

/-- The months between two moments that are over; a month that has only begun does not count. -/
def wholeMonths (months startInto finishInto : Expr) : Expr :=
  .caseWhen
    [⟨(months.gt 0).and (startInto.lt finishInto), months - 1⟩,
     ⟨(months.lt 0).and (startInto.gt finishInto), months + 1⟩]
    (some months)

def calendarDifference (dialect : Dialect) (start finish : Moment) (factor : Nat) : Expr :=
  let whole :=
    wholeMonths (monthsApart dialect start finish) (intoMonth dialect start)
      (intoMonth dialect finish)
  (if 1 < factor then whole / .int factor else whole).cast .double

def difference (dialect : Dialect) (start finish : Moment) (unit : TimeUnit) : Expr :=
  let measure := unit.forDifference
  match measure.unit.millis? with
  | some millis => elapsed dialect start finish (millis * measure.factor.toNat)
  | none => calendarDifference dialect start finish measure.factor.toNat

def unit (call : Call) (i : Nat) : Except Error TimeUnit := do
  return .ofText (← call.textLiteralOr i "day")

def datetimeDiff (call : Call) : Except Error Expr := do
  return difference call.dialect (call.moment 0) (call.moment 1) (← call.unit 2)

def fromNow (call : Call) : Except Error Expr := do
  return .call "ABS" [difference call.dialect call.now (call.moment 0) (← call.unit 1)]

def maxShiftSeconds : Expr := .int 300000000000

def maxShiftMonths : Expr := .int 100000

def unlessBeyond (limit shift : Expr) (shifted : Expr) : Expr :=
  .ite ((Expr.call "ABS" [shift]).gt limit) .null shifted

def shiftPostgres (moment : Moment) (shift : Expr) : Expr :=
  (moment.wall + shift).atTimeZone moment.clock.zoneText

def shiftSeconds (dialect : Dialect) (moment : Moment) (seconds : Expr) : Expr :=
  match dialect with
  | .postgres =>
    shiftPostgres moment
      (unlessBeyond maxShiftSeconds seconds (interval [0, 0, 0, 0, 0, 0, seconds]))
  | .sqlite =>
    unlessBeyond maxShiftSeconds seconds
      (.call "strftime"
        [.text isoOutput, moment.value, .call "printf" [.text "%.3f seconds", seconds]])

def shiftMonths (dialect : Dialect) (moment : Moment) (months : Expr) : Expr :=
  match dialect with
  | .postgres =>
    shiftPostgres moment
      (unlessBeyond maxShiftMonths months
        (interval [0, (Expr.call "TRUNC" [months]).cast .integer]))
  | .sqlite =>
    unlessBeyond maxShiftMonths months
      (.call "strftime"
        [.text isoOutput, moment.value, moment.clock.ahead,
         .call "printf" [.text "%d months", months.cast .integer], moment.clock.back])

def scaled (amount : Expr) (factor : Factor) : Expr :=
  if factor = .times 1 then amount else amount * .number factor.text

def shift (dialect : Dialect) (moment : Moment) (amount : Expr) (unit : TimeUnit) : Expr :=
  let measure := unit.forAdding
  let amount := scaled amount measure.factor
  match measure.unit.millis? with
  | some millis => shiftSeconds dialect moment (amount * .int (millis / 1000))
  | none =>
    shiftMonths dialect moment (if measure.unit = .year then amount * 12 else amount)

def dateAdd (call : Call) : Except Error Expr := do
  let unit := TimeUnit.ofText (← call.textLiteral 2)
  return shift call.dialect (call.moment 0) (← call.numberOrZero 1) unit

def truncationKey (moment : Moment) : TimeUnit → Expr
  | .year => moment.shown "%Y"
  | .quarter =>
    .chain .concat
      [moment.shown "%Y", .text "-", ((moment.shown "%m").cast .integer + 2) / 3]
  | .month => moment.shown "%Y-%m"
  | .week => moment.day ["-6 days", "weekday 1"]
  | .day => moment.shown "%Y-%m-%d"
  | .hour => moment.shown "%Y-%m-%dT%H"
  | .minute => moment.shown "%Y-%m-%dT%H:%M"
  | .second => moment.shown "%Y-%m-%dT%H:%M:%S"
  | .millisecond => moment.shown "%Y-%m-%dT%H:%M:%f"

def truncated (dialect : Dialect) (moment : Moment) (unit : TimeUnit) : Expr :=
  match dialect with
  | .postgres => .call "date_trunc" [.text unit.truncateName, moment.wall]
  | .sqlite => truncationKey moment unit

def dateRelation (call : Call) (op : BinOp) : Except Error Expr :=
  if call.has 2 then do
    let unit := (TimeUnit.ofText (← call.textLiteral 2)).forTruncation.unit
    return .binary (truncated call.dialect (call.moment 0) unit) op
      (truncated call.dialect (call.moment 1) unit)
  else .ok (.binary (call.datetime 0) op (call.datetime 1))

end Call

end SheetSql
