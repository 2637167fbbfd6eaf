import SheetSql.Match.Pattern
import SheetSql.Match.Pattern.Run

namespace SheetSql.Pattern

/-! Escapes: what a backslash and the characters after it stand for. -/

inductive Atom where
  | char (c : Char)
  | byte (c : Char)
  | named (complement : Bool)
  | property (asked : Property)
  | assertion
  deriving DecidableEq, Repr

namespace Atom

def char? : Atom → Option Char
  | .char c | .byte c => some c
  | _ => none

def pattern : Atom → Pattern
  | .char c => .char c
  | .byte c => .byte c
  | .named complement => .named complement
  | .property asked => .property asked
  | .assertion => .assertion

def member? : Atom → Option ClassSet
  | .char c | .byte c => some (.char c)
  | .named complement => some (.named complement)
  | .property asked => some (.property asked)
  | .assertion => none

end Atom

def isHexDigit (c : Char) : Bool :=
  c.isDigit || ('a' ≤ c && c ≤ 'f') || ('A' ≤ c && c ≤ 'F')

def hexDigit (c : Char) : Nat :=
  if c.isDigit then c.toNat - 48
  else if 'a' ≤ c then c.toNat - 87
  else c.toNat - 55

def hexChar? (digits : List Char) : Option Char :=
  let n := digits.foldl (fun n c => 16 * n + hexDigit c) 0
  if !digits.isEmpty && n.isValidChar then some (Char.ofNat n) else none

def hexDigits? (verbose : Bool) : Nat → List Char → List Char → Option (Char × List Char)
  | 0, digits, cs => (hexChar? digits.reverse).map (·, cs)
  | n + 1, digits, c :: rest =>
    if isHexDigit c then hexDigits? verbose n (c :: digits) (skipSpace verbose rest) else none
  | _, _, [] => none

/-- A character by its number, of `count` digits or in braces. Two digits are a byte. -/
def hexEscape? (verbose : Bool) (count : Nat) (cs : List Char) : Option (Atom × List Char) :=
  match skipSpace verbose cs with
  | '\x7b' :: rest =>
    match braced? verbose rest with
    | some (digits, rest) =>
      if digits.all isHexDigit then (hexChar? digits).map fun c => (.char c, rest) else none
    | none => none
  | rest =>
    (hexDigits? verbose count [] rest).map fun (c, rest) =>
      (if count = 2 then .byte c else .char c, rest)

def propertyEscape? (verbose : Bool) (cs : List Char) : Option (Atom × List Char) :=
  match skipSpace verbose cs with
  | '\x7b' :: rest =>
    (braced? verbose rest).map fun (text, rest) => (.property (.ofText text), rest)
  | c :: rest => if c = '\\' then none else some (.property (.plain [c]), rest)
  | [] => none

def boundaryWords : List String := ["start", "end", "start-half", "end-half"]

/-- The rest after `\b`. Braces that do not start with a letter are left to be a repetition. -/
def boundary? (verbose : Bool) (cs : List Char) : Option (List Char) :=
  match cs with
  | '\x7b' :: rest =>
    match skipSpace verbose rest with
    | [] => none
    | c :: more =>
      if c.isAlpha || c == '-' then
        match braced? verbose (c :: more) with
        | some (word, rest) =>
          if boundaryWords.contains (String.ofList word) then some rest else none
        | none => none
      else some cs
  | _ => some cs

def isEscapable (c : Char) : Bool :=
  c.toNat < 128 && !c.isAlphanum && c != '<' && c != '>'

def escape? (verbose : Bool) : List Char → Option (Atom × List Char)
  | [] => none
  | c :: rest =>
    if c = 'd' ∨ c = 's' ∨ c = 'w' then some (.named false, rest)
    else if c = 'D' ∨ c = 'S' ∨ c = 'W' then some (.named true, rest)
    else if c = 'p' ∨ c = 'P' then propertyEscape? verbose rest
    else if c = 'x' then hexEscape? verbose 2 rest
    else if c = 'u' then hexEscape? verbose 4 rest
    else if c = 'U' then hexEscape? verbose 8 rest
    else if isEscapable c then some (.char c, rest)
    else if c = 'b' then (boundary? verbose rest).map (.assertion, ·)
    else if "AzB<>".toList.contains c then some (.assertion, rest)
    else if c = 'a' then some (.char '\x07', rest)
    else if c = 'f' then some (.char '\x0c', rest)
    else if c = 't' then some (.char '\t', rest)
    else if c = 'n' then some (.char '\n', rest)
    else if c = 'r' then some (.char '\r', rest)
    else if c = 'v' then some (.char '\x0b', rest)
    else none

end SheetSql.Pattern
