import SheetSql.Coerce.Json
import SheetSql.Format.Iso

namespace SheetSql

structure WallClock where
  zone : String
  minutes : Int
  deriving DecidableEq, Repr, Inhabited

def minutesText (minutes : Int) : String :=
  (if minutes < 0 then toString minutes else "+" ++ toString minutes) ++ " minutes"

namespace Coerce

/-!
Moments out of text and text out of moments. A moment is a time stamp with a zone on Postgres
and ISO text in UTC on SQLite.
-/

open Format

def isoTemplate : String := "YYYY-MM-DD\"T\"HH24:MI:SS.MS\"Z\""

def isoOutput : String := "%Y-%m-%dT%H:%M:%fZ"

def normalDatetime (dialect : Dialect) (e : Expr) : Expr :=
  match dialect with
  | .postgres => e
  | .sqlite => .call "strftime" [.text isoOutput, e]

def datetimeText (dialect : Dialect) (e : Expr) : Expr :=
  match dialect with
  | .postgres => .call "to_char" [e.atTimeZone (.text "UTC"), .text isoTemplate]
  | .sqlite => normalDatetime .sqlite e

def interval (amounts : List Expr) : Expr := .call "make_interval" amounts

def lastDay (year month : Expr) : Expr :=
  .extract "DAY" (.call "make_date" [year, month, 1] + interval [0, 1] - interval [0, 0, 0, 1])

/--
The moment that a text means. Postgres takes its parts out of the match and makes the moment from
them, after a look at the length of the month, so that no text raises an error.
-/
def parseIsoPostgres (clock : WallClock) (e : Expr) : Expr :=
  let t := e.cast .text
  let captures := Expr.call "regexp_match" [t, .text isoRegex.text]
  let group := fun g : IsoGroup => captures.subscript (.int g.index)
  let int := fun g : IsoGroup => (group g).cast .integer
  let intOrZero := fun g : IsoGroup => (int g).orElse 0
  let doubleOrZero := fun g : IsoGroup => ((group g).cast .double).orElse 0
  let wall :=
    Expr.call "make_timestamp"
      [int .year, int .month, int .day, intOrZero .hour, intOrZero .minute,
       doubleOrZero .second + doubleOrZero .fraction]
  let sign := Expr.ite ((group .offsetSign).eq (.text "-")) (.int (-1)) 1
  let offset := sign * (intOrZero .offsetHours * 60 + intOrZero .offsetMinutes)
  let zone := Expr.ite (group .zone).isNull (.text clock.zone) (.text "UTC")
  let moment := (wall - interval [0, 0, 0, 0, 0, offset]).atTimeZone zone
  .caseWhen
    [⟨regexMatch t isoRegex,
      .caseWhen
        [⟨(int .year).eq 0, .null⟩,
         ⟨(int .day).le (lastDay (int .year) (int .month)), moment⟩]
        none⟩]
    none

/--
The moment that a text means. SQLite moves the day after the last of a month into the next one,
so a day that is not the same afterwards is none.
-/
def parseIsoSqlite (clock : WallClock) (e : Expr) : Expr :=
  let t := Expr.call "TRIM" [e.cast .text]
  let day := Expr.call "substr" [t, 1, 10]
  let date : Glob :=
    List.replicate 4 .digit ++ [.char '-', .digit, .digit, .char '-', .digit, .digit, .anyRun]
  let offset : Glob :=
    [.anyRun, .oneOf "+-", .digit, .digit, .char ':', .digit, .digit]
  let shift :=
    Expr.ite ((globMatch t [.anyRun, .oneOf "Zz"]).or (globMatch t offset))
      (.text (minutesText 0)) (.text (minutesText (-clock.minutes)))
  .caseWhen
    [⟨.chain .and
        [globMatch t date, (Expr.call "date" [day]).eq day,
         (Expr.call "datetime" [t]).isNotNull],
      .call "strftime" [.text isoOutput, t, shift]⟩]
    none

/-- The moment that an ISO text means, read on a clock unless it has an offset, or else null. -/
def parseIso (dialect : Dialect) (clock : WallClock) (e : Expr) : Expr :=
  match dialect with
  | .postgres => parseIsoPostgres clock e
  | .sqlite => parseIsoSqlite clock e

end Coerce

end SheetSql
