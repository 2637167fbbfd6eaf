import SheetSql.Sql.Build
import SheetSql.Target

namespace SheetSql.Dialect

/-! Functions that the dialects call by different names. -/

def position (dialect : Dialect) (haystack needle : Expr) : Expr :=
  match dialect with
  | .postgres => .call "STRPOS" [haystack, needle]
  | .sqlite => .call "INSTR" [haystack, needle]

def greatest (dialect : Dialect) (args : List Expr) : Expr :=
  match dialect with
  | .postgres => .call "GREATEST" args
  | .sqlite => .call "max" args

def least (dialect : Dialect) (args : List Expr) : Expr :=
  match dialect with
  | .postgres => .call "LEAST" args
  | .sqlite => .call "min" args

/--
A number cut off to a whole one between two bounds, the lower one where it is null. The bounds
keep casts and sums of positions in range. On Postgres a cast alone would round.
-/
def boundedInt (dialect : Dialect) (e : Expr) (low high : Int) : Expr :=
  let bounded :=
    dialect.greatest [dialect.least [e.orElse (.int low), .int high], .int low]
  match dialect with
  | .postgres => (Expr.call "TRUNC" [bounded]).cast .integer
  | .sqlite => bounded.cast .integer

end SheetSql.Dialect
