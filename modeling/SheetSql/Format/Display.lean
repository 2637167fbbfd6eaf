import SheetSql.Text.Doubled
import SheetSql.Text.Letter

namespace SheetSql.Format

/-! Display formats: how a date is shown. -/

inductive DisplayPart where
  | year4 | year2
  | monthName | monthAbbr | month2 | month
  | day2 | day | weekdayName | weekdayAbbr
  | hour24Padded | hour24 | hour12Padded | hour12
  | minute2 | minute | second2 | second | millisecond
  | meridiemUpper | meridiemLower
  deriving DecidableEq, Repr, Inhabited

namespace DisplayPart

def all : List DisplayPart :=
  [.year4, .monthName, .weekdayName, .monthAbbr, .weekdayAbbr, .millisecond, .year2, .month2,
   .day2, .hour24Padded, .hour12Padded, .minute2, .second2, .month, .day, .hour24, .hour12,
   .minute, .second, .meridiemUpper, .meridiemLower]

def word : DisplayPart → String
  | .year4 => "YYYY"
  | .year2 => "YY"
  | .monthName => "MMMM"
  | .monthAbbr => "MMM"
  | .month2 => "MM"
  | .month => "M"
  | .day2 => "DD"
  | .day => "D"
  | .weekdayName => "dddd"
  | .weekdayAbbr => "ddd"
  | .hour24Padded => "HH"
  | .hour24 => "H"
  | .hour12Padded => "hh"
  | .hour12 => "h"
  | .minute2 => "mm"
  | .minute => "m"
  | .second2 => "ss"
  | .second => "s"
  | .millisecond => "SSS"
  | .meridiemUpper => "A"
  | .meridiemLower => "a"

def template : DisplayPart → String
  | .year4 => "YYYY"
  | .year2 => "YY"
  | .monthName => "FMMonth"
  | .monthAbbr => "Mon"
  | .month2 => "MM"
  | .month => "FMMM"
  | .day2 => "DD"
  | .day => "FMDD"
  | .weekdayName => "FMDay"
  | .weekdayAbbr => "Dy"
  | .hour24Padded => "HH24"
  | .hour24 => "FMHH24"
  | .hour12Padded => "HH12"
  | .hour12 => "FMHH12"
  | .minute2 => "MI"
  | .minute => "FMMI"
  | .second2 => "SS"
  | .second => "FMSS"
  | .millisecond => "MS"
  | .meridiemUpper => "AM"
  | .meridiemLower => "am"

end DisplayPart

inductive DisplayItem where
  | literal (c : Char)
  | part (part : DisplayPart)
  deriving DecidableEq, Repr, Inhabited

inductive DisplayState where
  /-- Outside brackets, with so many characters of a word still to pass over. -/
  | plain (skip : Nat)
  | bracketed
  deriving DecidableEq, Repr

/--
The items of a display format. Text in square brackets stands for itself, if the brackets close,
and so does what is no word.
-/
def displayItems : DisplayState → List Char → List DisplayItem
  | _, [] => []
  | .bracketed, c :: rest =>
    if c = ']' then displayItems (.plain 0) rest
    else .literal c :: displayItems .bracketed rest
  | .plain (skip + 1), _ :: rest => displayItems (.plain skip) rest
  | .plain 0, c :: rest =>
    if c = '[' ∧ ']' ∈ rest then displayItems .bracketed rest
    else
      match DisplayPart.all.find? fun part => Text.startsWith part.word.toList (c :: rest) with
      | some part => .part part :: displayItems (.plain (part.word.length - 1)) rest
      | none => .literal c :: displayItems (.plain 0) rest

theorem displayItems_plain (skip : Nat) (cs : List Char) :
    displayItems (.plain skip) cs = displayItems (.plain 0) (cs.drop skip) := by
  induction cs generalizing skip with
  | nil => simp [displayItems]
  | cons c cs ih =>
    cases skip with
    | zero => rfl
    | succ skip => simp [displayItems, ih]

inductive DisplayToken where
  | literal (text : String)
  | part (part : DisplayPart)
  deriving DecidableEq, Repr, Inhabited

def gather (run : List Char) : List DisplayItem → List DisplayToken
  | [] => flush run
  | .literal c :: rest => gather (c :: run) rest
  | .part part :: rest => flush run ++ .part part :: gather [] rest
where
  flush : List Char → List DisplayToken
    | [] => []
    | run => [.literal (String.ofList run.reverse)]

def displayTokens (format : String) : List DisplayToken :=
  gather [] (displayItems (.plain 0) format.toList)

def quotedTemplate (text : String) : String :=
  String.ofList
    (Text.doubleQuote ::
      text.toList.flatMap (fun c => if c = Text.doubleQuote ∨ c = '\\' then ['\\', c] else [c]) ++
      [Text.doubleQuote])

/-- The template of Postgres for a display format. Text is quoted, so that no letter is a word. -/
def displayTemplate : List DisplayToken → String
  | [] => ""
  | .literal text :: rest => quotedTemplate text ++ displayTemplate rest
  | .part part :: rest => part.template ++ displayTemplate rest

end SheetSql.Format
