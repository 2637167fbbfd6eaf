import SheetSql.Format.DatePart

namespace SheetSql

/-! What can be wrong with a format or a pattern. -/

inductive FormatFault where
  | empty
  | unterminated
  | zoneName
  | isoWeek
  | slotTwice (slot : Slot)
  | partTwice (part : DatePart)
  | notFixedWidth
  | notAscii
  | incomplete
  | notImmutable
  | notRegex
  deriving DecidableEq, Repr, Inhabited

def FormatFault.message : FormatFault → String
  | .empty => "empty format"
  | .unterminated => "unterminated quoted literal"
  | .zoneName => "zone names cannot be parsed, use TZH:TZM or OF"
  | .isoWeek => "ISO week fields cannot be parsed"
  | .slotTwice slot => slot.name ++ " appears twice"
  | .partTwice part => part.word ++ " appears twice"
  | .notFixedWidth => "only YYYY MM DD HH24 MI SS MS are supported by SQLite"
  | .notAscii => "non-ASCII separator"
  | .incomplete => "year, month and day are required"
  | .notImmutable => "only fixed-width formats can be parsed in a generated column"
  | .notRegex => "regex parse error"

end SheetSql
