import SheetSql.Compile.Moment

namespace SheetSql.Call

/-! Working days, from Monday to Friday. Days of the week count from Monday as one. -/

open Coerce

/--
The days from a day to the one that is `n` working days later, or earlier if `n` is negative. A
move that starts at a weekend starts at the Friday before it or, back in time, at the Monday
after it. Every five working days pass one weekend.
-/
def workdayShift (weekday n : Expr) : Expr :=
  let isForward := n.ge 0
  let isWeekend := weekday.gt 5
  let toWorkday := Expr.ite isWeekend (.ite isForward (5 - weekday) (8 - weekday)) 0
  let start := Expr.ite isWeekend (.ite isForward 5 1) weekday
  let later := n + 2 * ((start - 1 + n) / 5)
  let earlier := n - 2 * (.chain .sub [5, start, n] / 5)
  toWorkday + .ite isForward later earlier

def businessDays (dialect : Dialect) (weekday days : Expr) : Expr :=
  let rest := days % 7
  .chain .add
    [days / 7 * 5,
     dialect.least [rest, dialect.greatest [0, 6 - weekday]],
     dialect.greatest [0, rest - (8 - weekday)]]

def maxWorkdays : Int := 100000

def workdays (call : Call) (i : Nat) : Except Error Expr := do
  return call.dialect.boundedInt (← call.numberOrZero i) (-maxWorkdays) maxWorkdays

def workday (call : Call) : Except Error Expr := do
  if call.has 2 then throw (call.fault 2 .holidays)
  let moment := call.moment 0
  let n ← call.workdays 1
  match call.dialect with
  | .postgres =>
    let weekday := (moment.field "ISODOW").cast .integer
    return (moment.wall + interval [0, 0, 0, workdayShift weekday n]).atTimeZone
      moment.clock.zoneText
  | .sqlite =>
    let weekday := isoWeekday (moment.shown "%w")
    return .call "strftime"
      [.text isoOutput, moment.value,
       (workdayShift weekday n).cast .text ++ .text " days"]

/--
The working days from one day to another, both counted, and negative if the second is before the
first. The least and the greatest of two days would leave out a null, which is looked at first.
-/
def workdaySpan (dialect : Dialect) (start finish : Expr) : Expr :=
  let low := dialect.least [start, finish]
  let high := dialect.greatest [start, finish]
  let count :=
    match dialect with
    | .postgres =>
      businessDays dialect ((Expr.extract "ISODOW" low).cast .integer) (high - low + 1)
    | .sqlite =>
      let days := Expr.call "julianday" [high] - .call "julianday" [low]
      businessDays dialect (isoWeekday (.call "strftime" [.text "%w", low]))
        (days.cast .integer + 1)
  .caseWhen [⟨start.isNull.or finish.isNull, .null⟩]
    (some ((Expr.ite (finish.lt start) (- count) count).cast .double))

def workdayDiff (call : Call) : Expr :=
  let day := fun i =>
    match call.dialect with
    | .postgres => (call.moment i).wall.cast .date
    | .sqlite => (call.moment i).day []
  workdaySpan call.dialect (day 0) (day 1)

end SheetSql.Call
