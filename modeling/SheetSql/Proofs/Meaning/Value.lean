import Mathlib.Algebra.Field.Rat
import SheetSql.Proofs.Matching.Glob
import SheetSql.Sql.Expr
import SheetSql.Target
import SheetSql.Text.Letter

namespace SheetSql

/-!
Values of SQL expressions, in exact arithmetic, and what the operators and functions of both
engines make of them. A result of `none` stands for an error, and also for what is left open here.
-/

def Decimal.value (decimal : Decimal) : ℚ :=
  (if decimal.negative then -1 else 1) * decimal.digits * 10 ^ decimal.exponent

inductive Value where
  | null
  | bool (value : Bool)
  | int (value : Int)
  | real (value : ℚ)
  | text (content : List Char)
  /-- A value of another type, given by the text that it is cast to. -/
  | other (shown : List Char)
  deriving DecidableEq

namespace Chars

/-- The blanks of an engine, which are those of ASCII. -/
def isSpace (c : Char) : Bool :=
  c == ' ' || c == '\t' || c == '\n' || c == '\x0b' || c == '\x0c' || c == '\r'

def strip (drops : Char → Bool) (cs : List Char) : List Char :=
  ((cs.dropWhile drops).reverse.dropWhile drops).reverse

def replaceAll (old new : List Char) : (skip : Nat) → List Char → List Char
  | _, [] => []
  | skip + 1, _ :: cs => replaceAll old new skip cs
  | 0, c :: cs =>
    if Text.startsWith old (c :: cs) then new ++ replaceAll old new (old.length - 1) cs
    else c :: replaceAll old new 0 cs

def position (needle : List Char) : List Char → Nat
  | [] => if needle.isEmpty then 1 else 0
  | c :: cs =>
    if Text.startsWith needle (c :: cs) then 1
    else if position needle cs = 0 then 0 else position needle cs + 1

def starts : List Char → List (List Char)
  | [] => [[]]
  | c :: cs => [] :: (starts cs).map (c :: ·)

/-- The number at the start of a text, as long as it can be, and zero if there is none. -/
def leadingNumber (cs : List Char) : ℚ :=
  (((starts (cs.dropWhile isSpace)).filterMap Decimal.read?).getLast?.map Decimal.value).getD 0

end Chars

namespace Value

def number? : Value → Option ℚ
  | .int n => some n
  | .real q => some q
  | _ => none

def int? : Value → Option Int
  | .int n => some n
  | _ => none

/-- The value of a number that is written so; without a point or a power it is an integer. -/
def ofWritten (cs : List Char) (decimal : Decimal) : Value :=
  if cs.all fun c => c.isDigit || c == '-' || c == '+' then
    .int (if decimal.negative then -decimal.digits else decimal.digits)
  else .real decimal.value

def arithmetic (onInts : Int → Int → Int) (onReals : ℚ → ℚ → ℚ) (a b : Value) : Option Value :=
  if a = .null ∨ b = .null then some .null
  else
    match a.int?, b.int? with
    | some m, some n => some (.int (onInts m n))
    | _, _ => do return .real (onReals (← a.number?) (← b.number?))

/--
Division. That of integers cuts off the fraction, on Postgres if the operands have integer types
and on SQLite if both values are integers.
-/
def divide (dialect : Dialect) (areIntegers : Bool) (a b : Value) : Option Value :=
  if a = .null ∨ b = .null then some .null
  else if b.number? = some 0 then
    match dialect with
    | .postgres => none
    | .sqlite => some .null
  else
    match a.int?, b.int? with
    | some m, some n =>
      if dialect = .sqlite ∨ areIntegers = true then some (.int (m.tdiv n))
      else some (.real (m / n))
    | _, _ => do return .real ((← a.number?) / (← b.number?))

def ofBool : Dialect → Bool → Value
  | .postgres, b => .bool b
  | .sqlite, b => .int (if b then 1 else 0)

def ofTruth (dialect : Dialect) : Option Bool → Value
  | none => .null
  | some b => ofBool dialect b

/-- Whether a value counts as true; a null is neither true nor false. -/
def truth? (dialect : Dialect) : Value → Option (Option Bool)
  | .null => some none
  | .bool b => some (some b)
  | .int n => if dialect = .sqlite then some (some (n != 0)) else none
  | .real q => if dialect = .sqlite then some (some (q != 0)) else none
  | _ => none

def equal? : Value → Value → Option (Option Bool)
  | .null, _ | _, .null => some none
  | .text cs, .text ds => some (some (cs == ds))
  | .bool a, .bool b => some (some (a == b))
  | a, b => do return some ((← a.number?) == (← b.number?))

def less? : Value → Value → Option (Option Bool)
  | .null, _ | _, .null => some none
  | a, b => do return some (decide ((← a.number?) < (← b.number?)))

def andTruth : Option Bool → Option Bool → Option Bool
  | some false, _ | _, some false => some false
  | some true, some true => some true
  | _, _ => none

def orTruth : Option Bool → Option Bool → Option Bool
  | some true, _ | _, some true => some true
  | some false, some false => some false
  | _, _ => none

def among? (value : Value) : List Value → Option (Option Bool)
  | [] => some (some false)
  | item :: rest => do return orTruth (← value.equal? item) (← value.among? rest)

theorem orTruth_some (a b : Bool) : orTruth (some a) (some b) = some (a || b) := by
  cases a <;> cases b <;> rfl

theorem among?_texts (cs : List Char) (texts : List (List Char)) :
    (Value.text cs).among? (texts.map .text) = some (some (texts.any (cs == ·))) := by
  induction texts with
  | nil => rfl
  | cons first rest ih =>
    rw [List.map_cons, among?, ih, List.any_cons, ← orTruth_some]
    rfl

def concat? : Value → Value → Option Value
  | .null, _ | _, .null => some .null
  | .text cs, .text ds => some (.text (cs ++ ds))
  | _, _ => none

open Classical in
noncomputable def regexMatch? : Value → Value → Option (Option Bool)
  | .null, _ | _, .null => some none
  | .text cs, .text pattern => do
      let regex ← Regex.ofText? (String.ofList pattern)
      return some (decide (∃ captures, regex.Matches Chars.isSpace cs captures))
  | _, _ => none

def globMatch? : Value → Value → Option (Option Bool)
  | .null, _ | _, .null => some none
  | .text cs, .text pattern => do
      return some ((← Glob.ofText? (String.ofList pattern)).accepts cs)
  | _, _ => none

/-- The text of a value; `shown` tells that of a number which is no integer. -/
def castText (shown : ℚ → List Char) : Value → Value
  | .null => .null
  | .bool b => .text (if b then "true" else "false").toList
  | .int n => .text (toString n).toList
  | .real q => .text (shown q)
  | .text cs => .text cs
  | .other cs => .text cs

/-- A number from a value. Postgres reads only texts that are numbers from end to end. -/
def castDouble (dialect : Dialect) : Value → Option Value
  | .null => some .null
  | .int n => some (.real n)
  | .real q => some (.real q)
  | .text cs =>
    match dialect with
    | .postgres => do return .real (← Decimal.read? (Chars.strip Chars.isSpace cs)).value
    | .sqlite => some (.real (Chars.leadingNumber cs))
  | _ => none

def typeName : Value → String
  | .null => "null"
  | .bool _ | .int _ => "integer"
  | .real _ => "real"
  | .text _ => "text"
  | .other _ => "blob"

def applyTexts (function : String) (args : List Value) : Option Value :=
  match args with
  | [.text cs] =>
    if function = "TRIM" then some (.text (Chars.strip (· == ' ') cs))
    else if function = "LOWER" ∧ cs.all (·.toNat < 128) = true then
      some (.text (cs.map Char.toLower))
    else none
  | [.text cs, .int start] =>
    if function = "substr" ∧ 1 ≤ start then some (.text (cs.drop (start.toNat - 1))) else none
  | [.text cs, .int start, .int count] =>
    if function = "SUBSTR" ∧ 1 ≤ start then
      some (.text ((cs.drop (start.toNat - 1)).take count.toNat))
    else none
  | [.text cs, .int width, .text [c]] =>
    if function = "LPAD" ∧ 0 ≤ width then
      some (.text (List.replicate (width.toNat - cs.length) c ++ cs.take width.toNat))
    else none
  | [.text cs, .text needle] =>
    if function = "strpos" then some (.int (Chars.position needle cs)) else none
  | [.text cs, .text old, .text new] =>
    if function = "REPLACE" ∧ old ≠ [] then some (.text (Chars.replaceAll old new 0 cs))
    else none
  | [.text cs, .text pattern, .text new, .text flags] =>
    if function = "REGEXP_REPLACE" ∧ new = [] ∧ flags = ['g'] then
      match Regex.ofText? (String.ofList pattern) with
      | some (.set members) => some (.text (cs.filter fun c => !members.has c))
      | _ => none
    else none
  | _ => none

def apply (function : String) (args : List Value) : Option Value :=
  if function = "NULLIF" then
    match args with
    | [value, unwanted] => do
        return if (← value.equal? unwanted) = some true then .null else value
    | _ => none
  else if function = "typeof" then
    match args with
    | [value] => some (.text value.typeName.toList)
    | _ => none
  else if args.contains .null then some .null
  else applyTexts function args

theorem apply_lower {cs : List Char} (ascii : (cs.all fun c => c.toNat < 128) = true) :
    apply "LOWER" [.text cs] = some (.text (cs.map Char.toLower)) := by
  have reduced : apply "LOWER" [.text cs] =
      if "LOWER" = "LOWER" ∧ (cs.all fun c => c.toNat < 128) = true then
        some (.text (cs.map Char.toLower))
      else none := rfl
  rw [reduced, if_pos ⟨rfl, ascii⟩]

theorem apply_regexpReplace {cs pattern : List Char} {members : CharSet}
    (spelled : Regex.ofText? (String.ofList pattern) = some (.set members)) :
    apply "REGEXP_REPLACE" [.text cs, .text pattern, .text [], .text ['g']] =
      some (.text (cs.filter fun c => !members.has c)) := by
  simp [apply, applyTexts, spelled]

theorem apply_replace (cs : List Char) (c : Char) :
    apply "REPLACE" [.text cs, .text [c], .text []] =
      some (.text (Chars.replaceAll [c] [] 0 cs)) := by
  simp [apply, applyTexts]

end Value

end SheetSql
