import SheetSql.Match.CharSet

namespace SheetSql

/-! Patterns that a whole text has to match, and the text in which SQLite reads them. -/

inductive GlobItem where
  | anyRun
  | char (c : Char)
  | set (members : CharSet)
  deriving DecidableEq, Repr, Inhabited

abbrev Glob := List GlobItem

namespace GlobItem

def digit : GlobItem := .set .digits

def oneOf (members : String) : GlobItem := .set (.ofText members)

/-- A character with a meaning of its own is written as a set of one. -/
def text : GlobItem → List Char
  | .anyRun => ['*']
  | .char c => if c = '*' ∨ c = '?' ∨ c = '[' ∨ c = ']' then ['[', c, ']'] else [c]
  | .set members => members.text

end GlobItem

namespace Glob

def text (glob : Glob) : String := String.ofList (glob.flatMap GlobItem.text)

def literal (s : String) : Glob := s.toList.map .char

def having (item : GlobItem) : Glob := [.anyRun, item, .anyRun]

end Glob

end SheetSql
