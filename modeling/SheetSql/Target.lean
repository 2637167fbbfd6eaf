namespace SheetSql

/-! Where an expression is going to run. -/

inductive Dialect where
  | postgres
  | sqlite
  deriving DecidableEq, Repr, Inhabited

inductive Placement where
  /-- A stored column: deterministic and without subqueries. -/
  | generated
  | select
  deriving DecidableEq, Repr, Inhabited

structure Target where
  dialect : Dialect
  placement : Placement
  deriving DecidableEq, Repr, Inhabited

def Dialect.name : Dialect → String
  | .postgres => "postgres"
  | .sqlite => "sqlite"

def Placement.name : Placement → String
  | .generated => "generated column"
  | .select => "select"

def Target.name (target : Target) : String :=
  target.dialect.name ++ " " ++ target.placement.name

def Target.isSelect (target : Target) : Bool :=
  target.placement == .select

end SheetSql
