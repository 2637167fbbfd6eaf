import SheetSql.Match.Pattern
import SheetSql.Match.Pattern.Run
import SheetSql.Text.Alphabetic
import SheetSql.Text.Numeral

namespace SheetSql.Pattern

/-! What can follow the opening bracket of a group: a name, or flags. -/

open Text

def isNameStart (c : Char) : Bool :=
  isAlphabetic c || c == '_'

def isNameChar (c : Char) : Bool :=
  isNameStart c || isNumeral c || c == '.' || c == '[' || c == ']'

def groupName? (cs : List Char) : Option (List Char × List Char) :=
  let name := cs.takeWhile (· != '>')
  match name, cs.dropWhile (· != '>') with
  | first :: more, _ :: rest =>
    if isNameStart first && more.all isNameChar then some (name, rest) else none
  | _, _ => none

structure OpenFlags where
  seen : List Char
  negated : Bool
  dangling : Bool
  flags : PatternFlags
  deriving Repr

namespace OpenFlags

def start : OpenFlags := ⟨[], false, false, ⟨none, none⟩⟩

def add (found : OpenFlags) (c : Char) : OpenFlags :=
  let value := some (!found.negated)
  { found with
    seen := c :: found.seen
    dangling := false
    flags :=
      if c = 'x' then { found.flags with verbose := value }
      else if c = 'u' then { found.flags with unicode := value }
      else found.flags }

end OpenFlags

def flags? (found : OpenFlags) : List Char → Option (OpenFlags × Char × List Char)
  | [] => none
  | c :: rest =>
    if c = ':' ∨ c = ')' then
      if found.dangling then none else some (found, c, rest)
    else if c = '-' then
      if found.negated then none
      else flags? { found with negated := true, dangling := true } rest
    else if "imsUuRx".toList.contains c && !found.seen.contains c then flags? (found.add c) rest
    else none

inductive GroupStart where
  | flags (given : PatternFlags)
  | group (name : Option (List Char)) (given : PatternFlags)
  deriving Repr

def groupStart? (verbose : Bool) (cs : List Char) : Option (GroupStart × List Char) :=
  let named := fun rest : List Char =>
    (groupName? rest).map fun (name, rest) => (GroupStart.group (some name) ⟨none, none⟩, rest)
  match skipSpace verbose cs with
  | '?' :: 'P' :: '<' :: rest => named rest
  | '?' :: '<' :: '=' :: _ => none
  | '?' :: '<' :: '!' :: _ => none
  | '?' :: '<' :: rest => named rest
  | '?' :: rest =>
    match flags? OpenFlags.start rest with
    | some (found, ':', rest) => some (.group none found.flags, rest)
    | some (found, _, rest) =>
      if found.seen.isEmpty then none else some (.flags found.flags, rest)
    | none => none
  | rest => some (.group none ⟨none, none⟩, rest)

end SheetSql.Pattern
