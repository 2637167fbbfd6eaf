import SheetSql.Compile.Dispatch
import SheetSql.Number.Shortest
import SheetSql.Sql.Printer

namespace SheetSql

/-! The SQL text of calls and of the leaves of formulas. -/

inductive Leaf where
  | text (content : String)
  | number (value : Double)
  | boolean (value : Bool)
  | null
  | field (id : String)
  deriving DecidableEq, Repr, Inhabited

namespace Target

def leaf (target : Target) (job : Job) : Leaf → Except Error Expr
  | .text content => .ok (.text content)
  | .number value => .ok (if value.isFinite then .number value.text else .null)
  | .boolean value => .ok (.bool value)
  | .null => .ok .null
  | .field id =>
    match job.catalog.byId? id with
    | some field => .ok (.column (job.qualifier target) field.column)
    | none => .error (.unknownField id)

def renderLeaf (target : Target) (job : Job) (leaf : Leaf) : Except Error String := do
  return (← target.leaf job leaf).print target.dialect

def check (operation : Operation) (args : List String) (hints : List Hint) :
    Except Error Unit := do
  unless operation.arity.accepts args.length do
    throw (.argumentCount operation args.length)
  unless hints.isEmpty || hints.length = args.length do
    throw (.hintCount operation args.length hints.length)
  match args.findIdx? fun sql => (Text.trim sql.toList).isEmpty with
  | some position => throw (.argument operation position .empty)
  | none => return

def renderOperation (target : Target) (job : Job) (operation : Operation) (args : List String)
    (hints : List Hint) : Except Error String := do
  check operation args hints
  let call : Call := { job, target, operation, args, hints }
  return (← call.compile).print target.dialect

def render (target : Target) (job : Job) (name : String) (args : List String)
    (hints : List Hint) : Except Error String :=
  match Operation.ofName? name with
  | some operation => target.renderOperation job operation args hints
  | none => .error (.unsupported name target)

end Target

end SheetSql
