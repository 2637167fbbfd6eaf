import SheetSql.Match.Pattern.Class
import SheetSql.Match.Pattern.Group

namespace SheetSql.Pattern

/-!
Which texts are regular expressions. A reader goes through the text piece by piece and keeps the
groups that are open; a text that it reads to the end is an expression if it can be used.
-/

structure OpenGroup where
  flags : PatternFlags
  verbose : Bool
  branches : List Pattern
  parts : List Pattern
  deriving Repr

structure Reader where
  verbose : Bool
  /-- The branches that are complete, the last one first. -/
  branches : List Pattern
  /-- The parts of the branch that is read, the last one first. -/
  parts : List Pattern
  groups : List OpenGroup
  names : List (List Char)
  deriving Repr

namespace Reader

def start : Reader := ⟨false, [], [], [], []⟩

def add (reader : Reader) (part : Pattern) : Reader :=
  { reader with parts := part :: reader.parts }

def branch (reader : Reader) : Reader :=
  { reader with branches := ofParts reader.parts.reverse :: reader.branches, parts := [] }

def whole (reader : Reader) : Pattern :=
  ofBranches reader.branch.branches.reverse

def repeat? (reader : Reader) (least : Nat) (most : Option Nat) : Option Reader :=
  match reader.parts with
  | part :: parts =>
    if part.isRepeatable then some { reader with parts := .rep part least most :: parts }
    else none
  | [] => none

def open? (reader : Reader) : GroupStart → Option Reader
  | .flags given =>
    some { reader.add (.flags given) with verbose := given.verbose.getD reader.verbose }
  | .group name given =>
    if name.any (reader.names.contains ·) then none
    else
      some
        { verbose := given.verbose.getD reader.verbose
          branches := []
          parts := []
          groups := ⟨given, reader.verbose, reader.branches, reader.parts⟩ :: reader.groups
          names := name.toList ++ reader.names }

def close? (reader : Reader) : Option Reader :=
  match reader.groups with
  | last :: groups =>
    some
      { verbose := last.verbose
        branches := last.branches
        parts := .group last.flags reader.whole :: last.parts
        groups
        names := reader.names }
  | [] => none

end Reader

def skipLazy : List Char → List Char
  | '?' :: rest => rest
  | rest => rest

def step? (reader : Reader) : List Char → Option (Reader × List Char)
  | [] => none
  | '(' :: rest =>
    (groupStart? reader.verbose rest).bind fun (found, rest) =>
      (reader.open? found).map (·, rest)
  | ')' :: rest => reader.close?.map (·, rest)
  | '|' :: rest => some (reader.branch, rest)
  | '[' :: rest =>
    (class? reader.verbose rest).map fun (members, rest) => (reader.add members, rest)
  | '\x7b' :: rest =>
    (bounds? reader.verbose rest).bind fun (least, most, rest) =>
      (reader.repeat? least most).map (·, skipLazy (skipSpace reader.verbose rest))
  | '?' :: rest => (reader.repeat? 0 (some 1)).map (·, skipLazy rest)
  | '*' :: rest => (reader.repeat? 0 none).map (·, skipLazy rest)
  | '+' :: rest => (reader.repeat? 1 none).map (·, skipLazy rest)
  | '\\' :: rest =>
    (escape? reader.verbose rest).map fun (atom, rest) => (reader.add atom.pattern, rest)
  | '.' :: rest => some (reader.add .anyChar, rest)
  | '^' :: rest => some (reader.add .assertion, rest)
  | '$' :: rest => some (reader.add .assertion, rest)
  | c :: rest => some (reader.add (.char c), rest)

def read? (fuel : Nat) (reader : Reader) (cs : List Char) : Option Pattern :=
  match fuel with
  | 0 => none
  | fuel + 1 =>
    match skipSpace reader.verbose cs with
    | [] => if reader.groups.isEmpty then some reader.whole else none
    | cs => (step? reader cs).bind fun (reader, rest) => read? fuel reader rest

def ofText? (s : String) : Option Pattern :=
  read? (s.toList.length + 1) Reader.start s.toList

def isText (s : String) : Bool :=
  (ofText? s).any isUsable

end SheetSql.Pattern
