import SheetSql.Format.Scan
import SheetSql.Match.Glob
import SheetSql.Text.Letter

namespace SheetSql.Format

/-!
Parse formats of fixed width. Every part has its full number of digits, so that it stands at the
same place in each text of the format.
-/

inductive Cell where
  | literal (c : Char)
  | digits (part : DatePart)
  deriving DecidableEq, Repr, Inhabited

namespace Cell

def part? : Cell → Option DatePart
  | .literal _ => none
  | .digits part => some part

def width : Cell → Nat
  | .literal _ => 1
  | .digits part => part.width

def glob : Cell → Glob
  | .literal c => [.char c]
  | .digits part => List.replicate part.width .digit

end Cell

def readCell : List Char → Except FormatFault (Option Cell × Nat)
  | [] => .ok (none, 0)
  | c :: rest =>
    match DatePart.all.find? fun part => Text.leads part.word.toList (c :: rest) with
    | some part => .ok (some (.digits part), part.word.length - 1)
    | none =>
      if c.isAlphanum then .error .notFixedWidth
      else if 128 ≤ c.toNat then .error .notAscii
      else .ok (some (.literal c), 0)

structure Layout where
  cells : List Cell
  deriving DecidableEq, Repr, Inhabited

def placesFrom (position : Nat) : List Cell → List (DatePart × Nat)
  | [] => []
  | .literal _ :: rest => placesFrom (position + 1) rest
  | .digits part :: rest => (part, position) :: placesFrom (position + part.width) rest

namespace Layout

def places (layout : Layout) : List (DatePart × Nat) :=
  placesFrom 1 layout.cells

def position? (layout : Layout) (part : DatePart) : Option Nat :=
  layout.places.lookup part

def glob (layout : Layout) : Glob :=
  layout.cells.flatMap Cell.glob

def isComplete (layout : Layout) : Bool :=
  [DatePart.year, .month, .day].all fun part => (layout.position? part).isSome

def read (format : String) : Except FormatFault Layout := do
  let cells ← distinct Cell.part? .partTwice [] (scan readCell .literal (.plain 0) format.toList)
  let layout : Layout := ⟨cells⟩
  if layout.isComplete then return layout else throw .incomplete

end Layout

end SheetSql.Format
