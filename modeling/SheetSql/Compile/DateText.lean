import SheetSql.Compile.Moment
import SheetSql.Format.Display
import SheetSql.Format.Layout
import SheetSql.Format.Template

namespace SheetSql.Call

/-! Dates as texts in a format, and out of them. -/

open Coerce Format

def namesBy (key : Expr) (entries : List (String × String)) : Expr :=
  .caseOf key (entries.map fun (number, name) => ⟨.text number, .text name⟩) none

def monthNumbers : List String := (List.range' 1 12).map (padded 2)

def weekdayNumbers : List String := (List.range 7).map toString

def shownPart (moment : Moment) : DisplayPart → Expr
  | .year4 => moment.shown "%Y"
  | .year2 => .call "substr" [moment.shown "%Y", 3, 2]
  | .monthName => namesBy (moment.shown "%m") (monthNumbers.zip monthNames)
  | .monthAbbr => namesBy (moment.shown "%m") (monthNumbers.zip monthAbbreviations)
  | .month2 => moment.shown "%m"
  | .month => unpadded "%m"
  | .day2 => moment.shown "%d"
  | .day => unpadded "%d"
  | .weekdayName => namesBy (moment.shown "%w") (weekdayNumbers.zip dayNames)
  | .weekdayAbbr => namesBy (moment.shown "%w") (weekdayNumbers.zip dayAbbreviations)
  | .hour24Padded => moment.shown "%H"
  | .hour24 => unpadded "%H"
  | .hour12Padded => .call "printf" [.text "%02d", hour12]
  | .hour12 => hour12.cast .text
  | .minute2 => moment.shown "%M"
  | .minute => unpadded "%M"
  | .second2 => moment.shown "%S"
  | .second => unpadded "%S"
  | .millisecond => .call "substr" [moment.shown "%f", 4, 3]
  | .meridiemUpper => .ite (hour.lt 12) (.text "AM") (.text "PM")
  | .meridiemLower => .ite (hour.lt 12) (.text "am") (.text "pm")
where
  unpadded (format : String) : Expr := ((moment.shown format).cast .integer).cast .text
  hour : Expr := (moment.shown "%H").cast .integer
  hour12 : Expr := (hour + 11) % 12 + 1

def shownToken (moment : Moment) : DisplayToken → Expr
  | .literal text => .text text
  | .part part => shownPart moment part

def shownIn (dialect : Dialect) (moment : Moment) (format : String) : Expr :=
  let tokens := displayTokens format
  match dialect with
  | .postgres => .call "to_char" [moment.wall, .text (displayTemplate tokens)]
  | .sqlite =>
    let shown :=
      if tokens.isEmpty then Expr.text ""
      else .sequence .concat (tokens.map (shownToken moment))
    .ite moment.value.isNull .null shown

def format (call : Call) (format : String) : Expr :=
  shownIn call.dialect (call.moment 0) format

def datetimeFormat (call : Call) : Except Error Expr := do
  return call.format (← call.textLiteralOr 1 "YYYY-MM-DD")

def isoText (part? : DatePart → Option Expr) (fraction : List Expr) : Expr :=
  let part := fun part default => (part? part).getD (.text default)
  .chain .concat
    ([part .year "0000", .text "-", part .month "01", .text "-", part .day "01", .text " ",
      part .hour "00", .text ":", part .minute "00", .text ":", part .second "00"] ++ fraction)

def isoByPosition (t : Expr) (layout : Layout) : Expr :=
  let part? := fun part : DatePart =>
    (layout.position? part).map fun position =>
      .call "SUBSTR" [t, .int position, .int part.width]
  isoText part?
    (match part? .millisecond with
    | some millis => [.text ".", millis]
    | none => [])

/--
The text in the ISO form for a text of fixed width, by the captures of its parts. Milliseconds
are a fraction of a second and not filled up.
-/
def isoByCapture (captures : Expr) (template : Template) : Expr :=
  let group? := fun part : DatePart =>
    (template.capture? part).map fun capture => captures.subscript (.int capture.index)
  let part? := fun part : DatePart =>
    (group? part).map fun group => .call "LPAD" [group, .int part.width, .text "0"]
  isoText part?
    (match group? .millisecond with
    | some millis => [.text ".", millis]
    | none => [])

def monthOfName (name : Expr) : Expr :=
  let start := Expr.call "LOWER" [.call "SUBSTR" [name, 1, 3]]
  let all := String.join (monthAbbreviations.map Text.lowered)
  (.call "strpos" [.text all, start] + 2) / 3

/--
A moment that is only read where the day exists: Postgres fails on a day after the last of its
month, and on the year zero. Without a year the month is that of a common year.
-/
def checkedDay (captures : Expr) (template : Template) (parsed : Expr) : Expr :=
  let group := fun capture : Capture => captures.subscript (.int capture.index)
  let int := fun capture => (group capture).cast .integer
  let year? := (template.capture? .year).map int
  match template.capture? .month, template.capture? .day with
  | some month, some day =>
    let m := if month.isName then monthOfName (group month) else int month
    let noYearZero :=
      match year? with
      | some year => [Branch.mk (year.eq 0) .null]
      | none => []
    .caseWhen
      (noYearZero ++ [⟨(int day).le (lastDay (year?.getD 1) m), parsed⟩]) none
  | _, _ =>
    match year? with
    | some year => .caseWhen [⟨year.ne 0, parsed⟩] none
    | none => parsed

def inFormat (format : String) (result : Except FormatFault α) : Except Error α :=
  result.mapError (.invalidFormat format)

def parsePostgres (call : Call) (format : String) : Except Error Expr := do
  let template ← inFormat format (Template.read format)
  let t ← call.text 0
  let clock := call.clock (call.operand 0)
  let captures := Expr.call "regexp_match" [t, .text template.regex.text]
  let whenMatched := fun e =>
    Expr.caseWhen [⟨regexMatch t template.regex, e⟩] none
  match Layout.read format with
  | .ok _ => return whenMatched (parseIso .postgres clock (isoByCapture captures template))
  | .error _ =>
    match call.target.placement with
    | .generated => throw (.invalidFormat format .notImmutable)
    | .select =>
      let stamped := Expr.call "to_timestamp" [t, .text format]
      let parsed :=
        if template.isZoned then stamped
        else (stamped.cast .timestamp).atTimeZone clock.zoneText
      return whenMatched (checkedDay captures template parsed)

def parseSqlite (call : Call) (format : String) : Except Error Expr := do
  let layout ← inFormat format (Layout.read format)
  let t ← call.text 0
  let notYearZero :=
    match layout.position? .year with
    | some position => [(Expr.call "SUBSTR" [t, .int position, 4]).ne (.text "0000")]
    | none => []
  return .caseWhen
    [⟨.sequence .and (globMatch t layout.glob :: notYearZero),
      parseIso .sqlite (call.clock (call.operand 0)) (isoByPosition t layout)⟩]
    none

def datetimeParse (call : Call) : Except Error Expr :=
  if call.has 1 then do
    let format ← call.textLiteral 1
    match call.dialect with
    | .postgres => call.parsePostgres format
    | .sqlite => call.parseSqlite format
  else .ok (call.datetime 0)

end SheetSql.Call
