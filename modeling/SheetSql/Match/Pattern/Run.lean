import SheetSql.Number.Power
import SheetSql.Text.Blank

namespace SheetSql.Pattern

/-!
Runs of characters and numbers in the text of an expression. In a verbose expression, blanks and
comments between the characters count for nothing.
-/

open Text

def run (verbose inComment : Bool) (kind : Char → Bool) : List Char → List Char × List Char
  | [] => ([], [])
  | c :: rest =>
    if inComment then run verbose (c != '\n') kind rest
    else if verbose && isBlank c then run verbose false kind rest
    else if verbose && c == '#' then run verbose true kind rest
    else if kind c then
      let (found, rest) := run verbose false kind rest
      (c :: found, rest)
    else ([], c :: rest)

def skipSpace (verbose : Bool) (cs : List Char) : List Char :=
  (run verbose false (fun _ => false) cs).2

def braced? (verbose : Bool) (cs : List Char) : Option (List Char × List Char) :=
  match run verbose false (· != '\x7d') cs with
  | (inside, _ :: rest) => some (inside, rest)
  | (_, []) => none

/-- A decimal number below 2 ^ 32, with blanks around it. -/
def decimal? (verbose : Bool) (cs : List Char) : Option (Nat × List Char) :=
  let (digits, rest) := run verbose false Char.isDigit (cs.dropWhile isBlank)
  let n := digits.foldl (fun n c => 10 * n + (c.toNat - 48)) 0
  if digits.isEmpty || pow2 32 ≤ n then none else some (n, rest.dropWhile isBlank)

def bounds? (verbose : Bool) (cs : List Char) : Option (Nat × Option Nat × List Char) :=
  match decimal? verbose (skipSpace verbose cs) with
  | none => none
  | some (least, '\x7d' :: rest) => some (least, some least, rest)
  | some (least, ',' :: rest) =>
    match skipSpace verbose rest with
    | '\x7d' :: rest => some (least, none, rest)
    | rest =>
      match decimal? verbose rest with
      | some (most, '\x7d' :: rest) =>
        if least ≤ most then some (least, some most, rest) else none
      | _ => none
  | _ => none

end SheetSql.Pattern
