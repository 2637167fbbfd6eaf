import SheetSql.Coerce.Site
import SheetSql.Number.Double
import SheetSql.Sql.Spelling

namespace SheetSql

/-! A call of an operation and its arguments. -/

structure Call extends Site where
  args : List String
  hints : List Hint
  deriving Repr, Inhabited

structure Moment where
  value : Expr
  clock : WallClock
  deriving Inhabited

/-- The greatest position in a text; twice as much is still in the range of integers. -/
def maxPosition : Nat := 1073741823

namespace Call

def has (call : Call) (i : Nat) : Bool := i < call.args.length

def sqlAt (call : Call) (i : Nat) : String := call.args[i]?.getD "NULL"

def operand (call : Call) (i : Nat) : Operand :=
  .classify call.job (call.sqlAt i) call.hints[i]?

def operands (call : Call) : List Operand :=
  call.args.mapIdx fun i sql => .classify call.job sql call.hints[i]?

def dialect (call : Call) : Dialect := call.target.dialect

def fault (call : Call) (i : Nat) (fault : ArgumentFault) : Error :=
  .argument call.operation i fault

def unsupported (call : Call) : Error := .unsupported call.operation.name call.target

def number (call : Call) (i : Nat) : Except Error Expr := call.toNumber (call.operand i)

def numberOrZero (call : Call) (i : Nat) : Except Error Expr :=
  call.toNumberOrZero (call.operand i)

def text (call : Call) (i : Nat) : Except Error Expr := call.toText (call.operand i)

def textOrEmpty (call : Call) (i : Nat) : Except Error Expr :=
  call.toTextOrEmpty (call.operand i)

def truth (call : Call) (i : Nat) : Except Error Expr := call.toBool (call.operand i)

def datetime (call : Call) (i : Nat) : Expr := call.toDatetime (call.operand i)

def moment (call : Call) (i : Nat) : Moment :=
  ⟨call.datetime i, call.clock (call.operand i)⟩

def jobClock (call : Call) : WallClock :=
  let zone := call.job.zoneOf none
  ⟨zone.name, call.job.offsetMinutes zone⟩

def numberOr (call : Call) (i : Nat) (default : Expr) : Except Error Expr :=
  if call.has i then call.number i else .ok default

def position (call : Call) (i : Nat) : Except Error Expr := do
  return call.dialect.boundedInt (← call.number i) 1 maxPosition

def length (call : Call) (i : Nat) : Except Error Expr := do
  return call.dialect.boundedInt (← call.number i) 0 maxPosition

def lengthOrOne (call : Call) (i : Nat) : Except Error Expr :=
  if call.has i then call.length i else .ok 1

def textLiteral (call : Call) (i : Nat) : Except Error String :=
  match Sql.textLiteral? (call.sqlAt i) with
  | some content => .ok content
  | none => .error (call.fault i .notText)

def textLiteralOr (call : Call) (i : Nat) (default : String) : Except Error String :=
  if call.has i then call.textLiteral i else .ok default

def occurrence (call : Call) (i : Nat) : Except Error Nat :=
  match Sql.numberLiteral? (call.sqlAt i) with
  | none => .error (call.fault i .notNumber)
  | some decimal =>
    match (Double.ofDecimal decimal).toNat? with
    | some n =>
      if 1 ≤ n ∧ n ≤ maxPosition then .ok n else .error (call.fault i .notPositive)
    | none => .error (call.fault i .notPositive)

def systemColumn (call : Call) (name : String) : Expr :=
  .column (call.job.qualifier call.target) name

end Call

end SheetSql
