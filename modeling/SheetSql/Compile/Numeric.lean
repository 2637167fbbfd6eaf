import SheetSql.Compile.Call

namespace SheetSql.Call

/-! Numbers. Where a function is undefined the result is null. -/

open Coerce

def arithmetic (call : Call) (op : BinOp) : Except Error Expr := do
  return .binary (← call.numberOrZero 0) op (← call.numberOrZero 1)

def divide (call : Call) : Except Error Expr := do
  return (← call.numberOrZero 0) / (← call.numberOrZero 1).nullIf 0

def unaryMinus (call : Call) : Except Error Expr := do
  return - (← call.numberOrZero 0)

def modulo (call : Call) : Except Error Expr := do
  let dividend ← call.numberOrZero 0
  let divisor ← call.numberOrZero 1
  match call.dialect with
  | .postgres =>
    return (Expr.call "MOD"
      [dividend.cast .numeric, (divisor.cast .numeric).nullIf 0]).cast .double
  | .sqlite => return .call "mod" [dividend, divisor.nullIf 0]

def presence (e : Expr) : Expr := .ite e.isNull 0 1

def sum (call : Call) : Except Error Expr := do
  return .sequence .add (← call.operands.mapM call.toNumberOrZero)

def numberCount (call : Call) (operand : Operand) : Except Error Expr :=
  match operand.kind with
  | .blank => .ok 0
  | .json => do
      call.needSubquery
      return jsonNumber call.dialect "COUNT" operand.expr
  | _ => do return presence (← call.toNumber operand)

def average (call : Call) : Except Error Expr := do
  let counts ← call.operands.mapM call.numberCount
  return (← call.sum) / (Expr.sequence .add counts).nullIf 0

def numbers (call : Call) (aggregate : String) : Except Error (List Expr) :=
  (call.operands.filter fun operand => !operand.isBlank).mapM fun operand =>
    match operand.kind with
    | .json => do
        call.needSubquery
        return jsonNumber call.dialect aggregate operand.expr
    | _ => call.toNumber operand

/--
The greatest or the least of some values, with nulls left out. Postgres leaves them out by
itself. SQLite has a null result as soon as one value is null, so that each null is replaced by
another of the values there; with one argument the function would be an aggregate.
-/
def extremumOf (dialect : Dialect) (pick : List Expr → Expr) (values : List Expr) : Expr :=
  match dialect, values with
  | _, [] => .null
  | .postgres, values => pick values
  | .sqlite, [only] => only
  | .sqlite, values => pick (values.map fun value => .coalesce (value :: values))

def max (call : Call) : Except Error Expr := do
  return extremumOf call.dialect call.dialect.greatest (← call.numbers "MAX")

def min (call : Call) : Except Error Expr := do
  return extremumOf call.dialect call.dialect.least (← call.numbers "MIN")

def sqrt (call : Call) : Except Error Expr := do
  let x ← call.number 0
  return .caseWhen [⟨x.lt 0, .null⟩] (some (.call "SQRT" [x]))

def maxExponent : Expr := .int 709

def minExponent : Expr := .int (-700)

def exp (call : Call) : Except Error Expr := do
  let x ← call.number 0
  return .caseWhen [⟨x.gt maxExponent, .null⟩, ⟨x.lt minExponent, 0⟩]
    (some (.call "EXP" [x]))

/-- A power. Branches are tried in order, so that the logarithm never gets a zero. -/
def powerOf (base exponent : Expr) : Expr :=
  let power := Expr.call "POWER" [base, exponent]
  let magnitude := exponent * .call "LN" [.call "ABS" [base]]
  .caseWhen
    [⟨base.eq 0, .ite (exponent.lt 0) .null power⟩,
     ⟨(base.lt 0).and (exponent.ne (.call "FLOOR" [exponent])), .null⟩,
     ⟨magnitude.gt maxExponent, .null⟩,
     ⟨magnitude.lt minExponent, 0⟩]
    (some power)

def power (call : Call) : Except Error Expr := do
  return powerOf (← call.number 0) (← call.number 1)

def logOf (x base : Expr) : Expr :=
  .caseWhen [⟨.chain .or [x.le 0, base.le 0, base.eq 1], .null⟩]
    (some (.call "LN" [x] / .call "LN" [base]))

def log (call : Call) : Except Error Expr := do
  return logOf (← call.number 0) (← call.numberOr 1 10)

def abs (call : Call) : Except Error Expr := do
  return .call "ABS" [← call.number 0]

end SheetSql.Call
