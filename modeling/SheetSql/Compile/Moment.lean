import SheetSql.Compile.Call

namespace SheetSql

/-! Moments on the clock of a zone: the present, and the parts of a date. -/

open Coerce

namespace WallClock

def zoneText (clock : WallClock) : Expr := .text clock.zone

def ahead (clock : WallClock) : Expr := .text (minutesText clock.minutes)

def back (clock : WallClock) : Expr := .text (minutesText (-clock.minutes))

end WallClock

namespace Moment

def wall (moment : Moment) : Expr := moment.value.atTimeZone moment.clock.zoneText

def field (moment : Moment) (name : String) : Expr := .extract name moment.wall

def shown (moment : Moment) (format : String) : Expr :=
  .call "strftime" [.text format, moment.value, moment.clock.ahead]

def day (moment : Moment) (moves : List String) : Expr :=
  .call "date" (moment.value :: moment.clock.ahead :: moves.map .text)

end Moment

/-- A day of the week from Monday as one, out of one from Sunday as zero, on SQLite. -/
def isoWeekday (weekday : Expr) : Expr := (weekday.cast .integer + 6) % 7 + 1

def Instant.literal (moment : Instant) : Expr := .typed .timestampTz moment.text

namespace Call

def liveNow (dialect : Dialect) : Expr :=
  match dialect with
  | .postgres => .call "NOW" []
  | .sqlite => .call "strftime" [.text isoOutput, .text "now"]

def liveToday (dialect : Dialect) (clock : WallClock) : Expr :=
  match dialect with
  | .postgres =>
    (Expr.call "date_trunc"
      [.text "day", (liveNow .postgres).atTimeZone clock.zoneText]).atTimeZone clock.zoneText
  | .sqlite =>
    .call "strftime"
      [.text isoOutput, .text "now", clock.ahead, .text "start of day", clock.back]

def frozenNow (call : Call) : Expr := call.job.now.literal

def frozenToday (call : Call) : Expr :=
  ((call.job.zoneOf none).startOfDay call.job.now).literal

def now (call : Call) : Moment :=
  match call.target.placement with
  | .select => ⟨liveNow call.dialect, call.jobClock⟩
  | .generated => ⟨call.frozenNow, call.jobClock⟩

def part (call : Call) (field format : String) : Expr :=
  match call.dialect with
  | .postgres => ((call.moment 0).field field).cast .integer
  | .sqlite => ((call.moment 0).shown format).cast .integer

def year (call : Call) : Expr := call.part "YEAR" "%Y"

def month (call : Call) : Expr := call.part "MONTH" "%m"

def day (call : Call) : Expr := call.part "DAY" "%d"

def hour (call : Call) : Expr := call.part "HOUR" "%H"

def minute (call : Call) : Expr := call.part "MINUTE" "%M"

def second (call : Call) : Expr :=
  match call.dialect with
  | .postgres => (Expr.call "FLOOR" [(call.moment 0).field "SECOND"]).cast .integer
  | .sqlite => ((call.moment 0).shown "%S").cast .integer

/-- The number of the ISO week, which is the week of its Thursday. -/
def weekNum (call : Call) : Expr :=
  match call.dialect with
  | .postgres => ((call.moment 0).field "WEEK").cast .integer
  | .sqlite =>
    let thursday := (call.moment 0).day ["-3 days", "weekday 4"]
    ((Expr.call "strftime" [.text "%j", thursday]).cast .integer - 1) / 7 + 1

def weekStartsMonday (call : Call) : Except Error Bool :=
  if call.has 1 then do
    let day := (Text.trim (← call.textLiteral 1).toList).map Char.toLower
    if day = "sunday".toList then return false
    else if day = "monday".toList then return true
    else throw (call.fault 1 .notWeekStart)
  else .ok false

def weekday (call : Call) : Except Error Expr := do
  let fromSunday := call.part "DOW" "%w"
  if ← call.weekStartsMonday then
    match call.dialect with
    | .postgres => return ((call.moment 0).field "ISODOW").cast .integer - 1
    | .sqlite => return (fromSunday + 6) % 7
  else return fromSunday

end Call

end SheetSql
