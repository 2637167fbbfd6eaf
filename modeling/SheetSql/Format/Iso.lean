import SheetSql.Format.Template

namespace SheetSql.Format

/-!
Dates and times in the ISO form: a day, perhaps a time of day, and after that perhaps an offset
from UTC.
-/

open Regex

inductive IsoGroup where
  | year | month | day | hour | minute | second
  | fraction
  | zone | offsetSign | offsetHours | offsetMinutes
  deriving DecidableEq, Repr, Inhabited

def IsoGroup.index : IsoGroup → Nat
  | .year => 1
  | .month => 2
  | .day => 3
  | .hour => 4
  | .minute => 5
  | .second => 6
  | .fraction => 7
  | .zone => 8
  | .offsetSign => 9
  | .offsetHours => 10
  | .offsetMinutes => 11

def sixtyPadded : Regex := span '0' '5' ++ digit

def isoOffset : Regex :=
  capture
    (char 'Z' <|>
      capture (oneOf "+-") ++ capture (digit.times 2) ++ (char ':').opt ++
        (capture (digit.times 2)).opt)

def isoTime : Regex :=
  oneOf " T" ++ capture hourOfDay ++ char ':' ++ capture sixtyPadded ++
    (together (char ':' ++ capture sixtyPadded ++ (capture (char '.' ++ digits 1 6)).opt)).opt

def isoRegex : Regex :=
  start ++ blank.many ++ capture (digit.times 4) ++ char '-' ++ capture twelve ++ char '-' ++
    capture dayOfMonth ++ (together (isoTime ++ blank.many ++ isoOffset.opt)).opt ++
    blank.many ++ finish

end SheetSql.Format
