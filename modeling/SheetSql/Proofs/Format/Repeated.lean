import SheetSql.Proofs.Format.Captures
import SheetSql.Proofs.Format.FixedWidth
import SheetSql.Proofs.Matching.Sample

namespace SheetSql.Format

/-! The fields of a timestamp that a parse format sets. -/

open Regex Matcher

inductive Field where
  | year | month | day | dayOfYear | weekday | hour | minute | second | millisecond | microsecond
  | secondOfDay | meridiem | offsetHour | offsetMinute | century | week | weekOfMonth | julianDay
  deriving DecidableEq, Repr

def Field.slot? : Field → Option Slot
  | .year => some .year
  | .month => some .month
  | .day | .dayOfYear => some .day
  | .weekday => some .weekday
  | .hour => some .hour
  | .minute => some .minute
  | .second => some .second
  | .secondOfDay => some .secondOfDay
  | .meridiem => some .meridiem
  | .offsetHour => some .offset
  | .millisecond | .microsecond | .offsetMinute | .century | .week | .weekOfMonth | .julianDay =>
    none

/-- The fields that Postgres sets when it reads a word. It passes over a quarter. -/
def Token.fields (token : Token) : List Field :=
  match token.word with
  | "YYYY" | "Y,YYY" | "YYY" | "YY" | "Y" => [.year]
  | "MONTH" | "MON" | "MM" => [.month]
  | "DD" => [.day]
  | "DDD" => [.dayOfYear]
  | "DAY" | "DY" | "D" => [.weekday]
  | "HH24" | "HH12" | "HH" => [.hour]
  | "MI" => [.minute]
  | "SS" => [.second]
  | "MS" => [.millisecond]
  | "US" | "FF1" | "FF2" | "FF3" | "FF4" | "FF5" | "FF6" => [.microsecond]
  | "SSSS" | "SSSSS" => [.secondOfDay]
  | "AM" | "PM" | "A.M." | "P.M." => [.meridiem]
  | "TZH" => [.offsetHour]
  | "TZM" => [.offsetMinute]
  | "OF" => [.offsetHour, .offsetMinute]
  | "CC" => [.century]
  | "WW" => [.week]
  | "W" => [.weekOfMonth]
  | "J" => [.julianDay]
  | _ => []

namespace Piece

def fields : Piece → List Field
  | .field token => token.fields
  | _ => []

def part? : Piece → Option DatePart
  | .field token => token.part
  | _ => none

end Piece

def field : DatePart → Field
  | .year => .year
  | .month => .month
  | .day => .day
  | .hour => .hour
  | .minute => .minute
  | .second => .second
  | .millisecond => .millisecond

namespace Template

end Template

theorem capturesFrom_of_none {piece : Piece} (none : piece.part? = none) (index : Nat)
    (pieces : List Piece) : capturesFrom index (piece :: pieces) = capturesFrom index pieces := by
  cases piece with
  | literal c => rfl
  | blank => rfl
  | field token =>
    change token.part = _ at none
    rw [capturesFrom, none]

theorem capturesFrom_of_some {piece : Piece} (dated : piece.part? = some part) (index : Nat)
    (pieces : List Piece) :
    ∃ isName, capturesFrom index (piece :: pieces) =
      ⟨part, index, isName⟩ :: capturesFrom (index + 1) pieces := by
  cases piece with
  | literal c => cases dated
  | blank => cases dated
  | field token =>
    change token.part = _ at dated
    rw [capturesFrom, dated]
    exact ⟨token.isName, rfl⟩

section

variable {template : Template}
  (known : ∀ token, .field token ∈ template.pieces → token ∈ tokens)
include known

end

end SheetSql.Format
