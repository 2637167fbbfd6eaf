import SheetSql.Proofs.Meaning.Value
import SheetSql.Sql.Build
import SheetSql.Sql.Literal

namespace SheetSql

/-! The value of an expression in a row. -/

structure Row where
  dialect : Dialect
  /-- The values of expressions that are only known by their texts. -/
  value : String → Value
  /-- Those of them that have integer types on Postgres. -/
  isInteger : String → Bool
  shown : ℚ → List Char

namespace Row

open Sql

/-- The value of an expression that is given as a text. A constant has the value that it spells. -/
def fragment (row : Row) (sql : String) : Value :=
  if isNullLiteral sql then .null
  else
    match numberLiteral? sql, textLiteral? sql, boolLiteral? sql with
    | some decimal, _, _ => .ofWritten (Text.bare sql.toList) decimal
    | none, some content, _ => .text content.toList
    | none, none, some b => .ofBool row.dialect b
    | none, none, none =>
      match row.dialect, row.value sql with
      | .sqlite, .bool b => .ofBool .sqlite b
      | _, value => value

def isIntegerFragment (row : Row) (sql : String) : Bool :=
  if isNullLiteral sql then true
  else
    match numberLiteral? sql with
    | some decimal => (Value.ofWritten (Text.bare sql.toList) decimal).int?.isSome
    | none => row.isInteger sql

noncomputable def binary (row : Row) (op : BinOp) (areIntegers : Bool) (a b : Value) :
    Option Value :=
  let truth := Value.ofTruth row.dialect
  match op with
  | .add => a.arithmetic (· + ·) (· + ·) b
  | .sub => a.arithmetic (· - ·) (· - ·) b
  | .mul => a.arithmetic (· * ·) (· * ·) b
  | .div => a.divide row.dialect areIntegers b
  | .eq => (a.equal? b).map truth
  | .ne => (a.equal? b).map fun equal => truth (equal.map (!·))
  | .lt => (a.less? b).map truth
  | .gt => (b.less? a).map truth
  | .le => (b.less? a).map fun less => truth (less.map (!·))
  | .ge => (a.less? b).map fun less => truth (less.map (!·))
  | .and => do return truth (Value.andTruth (← a.truth? row.dialect) (← b.truth? row.dialect))
  | .or => do return truth (Value.orTruth (← a.truth? row.dialect) (← b.truth? row.dialect))
  | .concat => a.concat? b
  | .regexMatch => (a.regexMatch? b).map truth
  | .glob => (a.globMatch? b).map truth
  | _ => none

noncomputable def chain (row : Row) (op : BinOp) (areIntegers : Bool) :
    List Value → Option Value
  | [] => none
  | first :: rest => rest.foldlM (row.binary op areIntegers) first

def unary (row : Row) : UnOp → Value → Option Value
  | .not, a => do return .ofTruth row.dialect ((← a.truth? row.dialect).map (!·))
  | .neg, a => Value.arithmetic (· - ·) (· - ·) (.int 0) a

def cast (row : Row) (value : Value) : SqlType → Option Value
  | .text => some (value.castText row.shown)
  | .double => value.castDouble row.dialect
  | _ => none

end Row

/-- The functions whose type on Postgres is an integer type if all their arguments have one. -/
def keepsIntegers : List String := ["COALESCE", "NULLIF", "GREATEST", "LEAST"]

mutual

/-- Whether Postgres gives an expression an integer type. A null fits any type. -/
def Expr.isInteger (row : Row) : Expr → Bool
  | .null => true
  | .number digits => digits.toList.all fun c => c.isDigit || c == '-'
  | .fragment sql => row.isIntegerFragment sql
  | .call function args =>
    function == "strpos" || function == "STRPOS" ||
      (keepsIntegers.contains function && areIntegers row args)
  | .binary left op right =>
    [BinOp.add, .sub, .mul, .div, .mod].contains op && left.isInteger row && right.isInteger row
  | .chain op items => [BinOp.add, .sub, .mul, .div, .mod].contains op && areIntegers row items
  | .unary .neg operand => operand.isInteger row
  | .cast _ .integer => true
  | .case _ branches otherwise =>
    branchesAreIntegers row branches && isIntegerOrMissing row otherwise
  | _ => false

def areIntegers (row : Row) : List Expr → Bool
  | [] => true
  | e :: rest => e.isInteger row && areIntegers row rest

def branchesAreIntegers (row : Row) : List Branch → Bool
  | [] => true
  | ⟨_, value⟩ :: rest => value.isInteger row && branchesAreIntegers row rest

def isIntegerOrMissing (row : Row) : Option Expr → Bool
  | none => true
  | some e => e.isInteger row

end

mutual

noncomputable def Expr.eval (row : Row) : Expr → Option Value
  | .null => some .null
  | .bool b => some (.ofBool row.dialect b)
  | .number digits => (Decimal.read? digits.toList).map (.ofWritten digits.toList)
  | .text content => some (.text content.toList)
  | .fragment sql => some (row.fragment sql)
  | .call function args =>
    if function = "COALESCE" then evalFirst row args
    else (evalEach row args).bind (Value.apply function)
  | .binary left op right => do
      row.binary op (left.isInteger row && right.isInteger row) (← left.eval row)
        (← right.eval row)
  | .chain op items => (evalEach row items).bind (row.chain op (areIntegers row items))
  | .unary op operand => (operand.eval row).bind (row.unary op)
  | .nullTest operand negated =>
    (operand.eval row).map fun value => .ofBool row.dialect (decide (value = .null) != negated)
  | .member operand list negated => do
      let found ← (← operand.eval row).among? (← evalEach row list)
      return .ofTruth row.dialect (if negated then found.map (!·) else found)
  | .cast operand type => (operand.eval row).bind fun value => row.cast value type
  | .case none branches otherwise => evalBranches row (evalOptional row otherwise) branches
  | .case (some subject) branches otherwise =>
    (subject.eval row).bind fun value =>
      evalBranchesOf row value (evalOptional row otherwise) branches
  | _ => none

noncomputable def evalEach (row : Row) : List Expr → Option (List Value)
  | [] => some []
  | e :: rest => do return (← e.eval row) :: (← evalEach row rest)

noncomputable def evalFirst (row : Row) : List Expr → Option Value
  | [] => some .null
  | e :: rest => do
      let value ← e.eval row
      if value = .null then evalFirst row rest else return value

noncomputable def evalOptional (row : Row) : Option Expr → Option Value
  | none => some .null
  | some e => e.eval row

noncomputable def evalBranches (row : Row) (default : Option Value) :
    List Branch → Option Value
  | [] => default
  | ⟨condition, value⟩ :: rest => do
      let holds ← (← condition.eval row).truth? row.dialect
      if holds = some true then value.eval row else evalBranches row default rest

noncomputable def evalBranchesOf (row : Row) (subject : Value) (default : Option Value) :
    List Branch → Option Value
  | [] => default
  | ⟨condition, value⟩ :: rest => do
      let holds ← subject.equal? (← condition.eval row)
      if holds = some true then value.eval row else evalBranchesOf row subject default rest

end

section

variable {row : Row}

theorem eval_call (other : function ≠ "COALESCE") (each : evalEach row args = some values) :
    (Expr.call function args).eval row = Value.apply function values := by
  rw [Expr.eval, if_neg other, each, Option.bind_some]

theorem evalEach_nil : evalEach row [] = some [] := rfl

theorem evalEach_cons {e : Expr} (first : e.eval row = some value)
    (each : evalEach row rest = some values) :
    evalEach row (e :: rest) = some (value :: values) := by
  rw [evalEach, first, each]
  rfl

theorem eval_binary {left right : Expr} (op : BinOp) (first : left.eval row = some a)
    (second : right.eval row = some b) :
    (Expr.binary left op right).eval row =
      row.binary op (left.isInteger row && right.isInteger row) a b := by
  rw [Expr.eval, first, second]
  rfl

theorem binary_regexMatch (areIntegers : Bool) (a b : Value) :
    row.binary .regexMatch areIntegers a b =
      (a.regexMatch? b).map (Value.ofTruth row.dialect) := rfl

theorem binary_glob (areIntegers : Bool) (a b : Value) :
    row.binary .glob areIntegers a b = (a.globMatch? b).map (Value.ofTruth row.dialect) := rfl

theorem eval_unary {operand : Expr} (op : UnOp) (value : operand.eval row = some a) :
    (Expr.unary op operand).eval row = row.unary op a := by
  rw [Expr.eval, value, Option.bind_some]

theorem eval_cast {operand : Expr} (type : SqlType) (value : operand.eval row = some a) :
    (operand.cast type).eval row = row.cast a type := by
  rw [Expr.eval, value, Option.bind_some]

theorem eval_orElse {first second : Expr} (value : first.eval row = some a)
    (default : second.eval row = some b) :
    (first.orElse second).eval row = some (if a = .null then b else a) := by
  rw [Expr.orElse, Expr.coalesce, Expr.eval, if_pos rfl, evalFirst, value]
  by_cases null : a = .null
  · rw [null, if_pos rfl, ← default]
    change (do if Value.null = Value.null then evalFirst row [second] else pure Value.null) = _
    rw [if_pos rfl, evalFirst, default]
    by_cases nullToo : b = .null
    · rw [nullToo]
      rfl
    · change (if b = .null then evalFirst row [] else pure b) = _
      rw [if_neg nullToo]
      rfl
  · change (if a = .null then evalFirst row [second] else pure a) = _
    rw [if_neg null, if_neg null]
    rfl

theorem truth?_ofTruth (dialect : Dialect) (truth : Option Bool) :
    (Value.ofTruth dialect truth).truth? dialect = some truth := by
  cases truth with
  | none => rfl
  | some b => cases dialect <;> cases b <;> rfl

theorem evalBranches_of_truth {condition : Expr} {default : Option Value}
    (holds : condition.eval row = some v) (counts : v.truth? row.dialect = some truth) :
    evalBranches row default (⟨condition, value⟩ :: rest) =
      if truth = some true then value.eval row else evalBranches row default rest := by
  rw [evalBranches, holds]
  change (do
    let holds ← v.truth? row.dialect
    if holds = some true then value.eval row else evalBranches row default rest) = _
  rw [counts]
  rfl

theorem evalBranches_cons {condition : Expr} {default : Option Value}
    (holds : condition.eval row = some (.ofTruth row.dialect truth)) :
    evalBranches row default (⟨condition, value⟩ :: rest) =
      if truth = some true then value.eval row else evalBranches row default rest :=
  evalBranches_of_truth holds (truth?_ofTruth row.dialect truth)

theorem eval_caseWhen (branches : List Branch) (otherwise : Option Expr) :
    (Expr.caseWhen branches otherwise).eval row =
      evalBranches row (evalOptional row otherwise) branches := by
  rw [Expr.caseWhen, Expr.eval]

end

end SheetSql
