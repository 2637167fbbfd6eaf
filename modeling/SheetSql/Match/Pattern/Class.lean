import SheetSql.Match.Pattern.Escape

namespace SheetSql.Pattern

/-! Classes in square brackets. -/

open Text

def asciiClasses : List String :=
  ["alnum", "alpha", "ascii", "blank", "cntrl", "digit", "graph", "lower", "print", "punct",
   "space", "upper", "word", "xdigit"]

def asciiClass? : List Char → Option (ClassSet × List Char)
  | ':' :: rest =>
    let (complement, body) :=
      match rest with
      | '^' :: body => (true, body)
      | body => (false, body)
    match body.dropWhile (· != ':') with
    | ':' :: ']' :: rest =>
      if asciiClasses.contains (String.ofList (body.takeWhile (· != ':'))) then
        some (.named complement, rest)
      else none
    | _ => none
  | _ => none

structure OpenClass where
  complement : Bool
  /-- What stands before the last sign of intersection or difference. -/
  left : Option ClassSet
  /-- The members since then, the last one first. -/
  members : List ClassSet
  deriving Repr

namespace OpenClass

def add (level : OpenClass) (member : ClassSet) : OpenClass :=
  { level with members := member :: level.members }

def whole (level : OpenClass) : ClassSet :=
  let right := ClassSet.ofMembers level.members.reverse
  match level.left with
  | none => right
  | some left => .combined left right

def operator (level : OpenClass) : OpenClass :=
  { level with left := some level.whole, members := [] }

end OpenClass

/-- The start of a class: a sign of complement, minus signs, and a bracket that is a member. -/
def classStart? (verbose : Bool) (cs : List Char) : Option (OpenClass × List Char) :=
  let (complement, body) :=
    match skipSpace verbose cs with
    | '^' :: rest => (true, rest)
    | rest => (false, rest)
  let (dashes, rest) := run verbose false (· == '-') body
  let level : OpenClass := ⟨complement, none, dashes.map .char⟩
  match dashes, rest with
  | _, [] => none
  | [], ']' :: rest =>
    match skipSpace verbose rest with
    | [] => none
    | rest => some (level.add (.char ']'), rest)
  | _, rest => some (level, rest)

def classAtom? (verbose : Bool) : List Char → Option (Atom × List Char)
  | [] => none
  | '\\' :: rest => escape? verbose rest
  | c :: rest => some (.char c, rest)

/-- The character that decides what a minus sign before it means. Of a comment, only the sign
is passed over. -/
def lookAhead? (verbose : Bool) (cs : List Char) : Option Char :=
  if verbose then
    match cs.dropWhile isBlank with
    | '#' :: rest => (rest.dropWhile isBlank).head?
    | rest => rest.head?
  else cs.head?

/-- A member of a class, or a range of them. -/
def classItem? (verbose : Bool) (cs : List Char) : Option (ClassSet × List Char) :=
  match classAtom? verbose cs with
  | none => none
  | some (first, rest) =>
    match skipSpace verbose rest with
    | [] => none
    | '-' :: after =>
      let next := lookAhead? verbose after
      if next = some ']' ∨ next = some '-' then first.member?.map (·, '-' :: after)
      else
        match classAtom? verbose (skipSpace verbose after) with
        | none => none
        | some (second, rest) =>
          match first.char?, second.char? with
          | some low, some high => if low ≤ high then some (.span low high, rest) else none
          | _, _ => none
    | rest => first.member?.map (·, rest)

def classRest? (verbose : Bool) :
    Nat → OpenClass → List OpenClass → List Char → Option (Pattern × List Char)
  | 0, _, _, _ => none
  | fuel + 1, level, outer, cs =>
    match skipSpace verbose cs with
    | [] => none
    | '[' :: rest =>
      match asciiClass? rest with
      | some (member, rest) => classRest? verbose fuel (level.add member) outer rest
      | none =>
        match classStart? verbose rest with
        | some (inner, rest) => classRest? verbose fuel inner (level :: outer) rest
        | none => none
    | ']' :: rest =>
      match outer with
      | [] => some (.set level.complement level.whole, rest)
      | parent :: outer =>
        classRest? verbose fuel (parent.add (.nested level.complement level.whole)) outer rest
    | '&' :: '&' :: rest => classRest? verbose fuel level.operator outer rest
    | '-' :: '-' :: rest => classRest? verbose fuel level.operator outer rest
    | '~' :: '~' :: rest => classRest? verbose fuel level.operator outer rest
    | cs =>
      match classItem? verbose cs with
      | some (member, rest) => classRest? verbose fuel (level.add member) outer rest
      | none => none

def class? (verbose : Bool) (cs : List Char) : Option (Pattern × List Char) :=
  (classStart? verbose cs).bind fun (level, rest) =>
    classRest? verbose (rest.length + 1) level [] rest

end SheetSql.Pattern
