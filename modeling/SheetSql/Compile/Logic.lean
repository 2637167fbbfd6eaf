import SheetSql.Coerce.Branch
import SheetSql.Coerce.Comparison
import SheetSql.Compile.Call

namespace SheetSql.Call

/-! Conditions. -/

def logical (call : Call) (op : BinOp) : Except Error Expr := do
  return .sequence op (← call.operands.mapM call.toBool)

def xor (call : Call) : Except Error Expr := do
  let ones ← call.operands.mapM fun operand => do
    return Expr.ite (← call.toBool operand) 1 0
  return (Expr.sequence .add ones % 2).eq 1

def not (call : Call) : Except Error Expr := do return (← call.truth 0).not

def ifElse (call : Call) : Except Error Expr := do
  let condition ← call.truth 0
  let yes := call.operand 1
  let no := if call.has 2 then some (call.operand 2) else none
  let type := call.branchType (yes :: no.toList)
  let otherwise ← no.mapM (call.branchValue type)
  return .caseWhen [⟨condition, ← call.branchValue type yes⟩] otherwise

def pairs : List α → List (α × α) × Option α
  | [] => ([], none)
  | [default] => ([], some default)
  | pattern :: result :: rest =>
    let (more, default) := pairs rest
    ((pattern, result) :: more, default)

def switch (call : Call) : Except Error Expr :=
  match call.operands with
  | [] => .error (call.fault 0 .missing)
  | subject :: rest => do
      let (cases, default) := pairs rest
      let type := call.branchType (cases.map (·.2) ++ default.toList)
      let branches ← cases.mapM fun (pattern, result) => do
        return Branch.mk (← call.equal false subject pattern) (← call.branchValue type result)
      let otherwise ← default.mapM (call.branchValue type)
      return .caseWhen branches otherwise

def comparison (call : Call) (op : BinOp) : Except Error Expr :=
  call.compare op (call.operand 0) (call.operand 1)

def equality (call : Call) (negated : Bool) : Except Error Expr :=
  call.equal negated (call.operand 0) (call.operand 1)

/--
An expression that fails with a message when the query runs. The planner does not compute the
text beforehand, because its function is not immutable.
-/
def raise (call : Call) : Except Error Expr := do
  let message ← if call.has 0 then call.textOrEmpty 0 else .ok (.text "")
  return ((Expr.call "concat" [.text "#ERROR: ", message]).cast .numeric).cast .text

end SheetSql.Call
