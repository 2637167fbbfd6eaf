import SheetSql.Format.Fault
import SheetSql.Text.Doubled

namespace SheetSql.Format

/-!
Reading a format from left to right. Text between double quotes stands for itself, with a
backslash before the characters that would end it; the rest is read word by word.
-/

inductive ScanState where
  | plain (skip : Nat)
  | quoted
  | escaped
  deriving DecidableEq, Repr

/--
The pieces of a format, up to the first fault. Outside quotes `read` tells the piece that starts a
text, if there is one, and how many characters after the first belong to it.
-/
def scan (read : List Char → Except FormatFault (Option α × Nat)) (literal : Char → α) :
    ScanState → List Char → List (Except FormatFault α)
  | .plain _, [] => []
  | .quoted, [] => [.error .unterminated]
  | .escaped, [] => [.error .unterminated]
  | .plain (skip + 1), _ :: rest => scan read literal (.plain skip) rest
  | .plain 0, c :: rest =>
    if c = Text.doubleQuote then scan read literal .quoted rest
    else
      match read (c :: rest) with
      | .error fault => [.error fault]
      | .ok (some piece, more) => .ok piece :: scan read literal (.plain more) rest
      | .ok (none, more) => scan read literal (.plain more) rest
  | .quoted, c :: rest =>
    if c = Text.doubleQuote then scan read literal (.plain 0) rest
    else if c = '\\' then scan read literal .escaped rest
    else .ok (literal c) :: scan read literal .quoted rest
  | .escaped, c :: rest => .ok (literal c) :: scan read literal .quoted rest

theorem scan_plain (read : List Char → Except FormatFault (Option α × Nat))
    (literal : Char → α) (skip : Nat) (cs : List Char) :
    scan read literal (.plain skip) cs = scan read literal (.plain 0) (cs.drop skip) := by
  induction cs generalizing skip with
  | nil => simp [scan]
  | cons c cs ih =>
    cases skip with
    | zero => rfl
    | succ skip => simp [scan, ih]

/--
The pieces of a format in which none sets a key that an earlier one has set. Of several faults
the first counts.
-/
def distinct [DecidableEq κ] (key : α → Option κ) (twice : κ → FormatFault) :
    List κ → List (Except FormatFault α) → Except FormatFault (List α)
  | _, [] => .ok []
  | _, .error fault :: _ => .error fault
  | seen, .ok piece :: rest =>
    match key piece with
    | none => (distinct key twice seen rest).map (piece :: ·)
    | some k =>
      if k ∈ seen then .error (twice k)
      else (distinct key twice (k :: seen) rest).map (piece :: ·)

end SheetSql.Format
