import SheetSql.Compile.Call

namespace SheetSql.Call

/-! Numbers brought to a grid. -/

def int (call : Call) : Except Error Expr := do
  return .call "FLOOR" [← call.number 0]

def multipleOf (rounding : String) (x significance : Expr) : Expr :=
  .call rounding [x / significance.nullIf 0] * significance

def ceiling (call : Call) : Except Error Expr := do
  return multipleOf "CEIL" (← call.number 0) (← call.numberOr 1 1)

def floor (call : Call) : Except Error Expr := do
  return multipleOf "FLOOR" (← call.number 0) (← call.numberOr 1 1)

def signOf (x : Expr) : Expr := .ite (x.lt 0) (.int (-1)) 1

def evenOf (x : Expr) : Expr :=
  signOf x * (.call "CEIL" [.call "ABS" [x] / 2] * 2)

def oddOf (x : Expr) : Expr :=
  signOf x * (.call "CEIL" [(.call "ABS" [x] + 1) / 2] * 2 - 1)

def even (call : Call) : Except Error Expr := do return evenOf (← call.number 0)

def odd (call : Call) : Except Error Expr := do return oddOf (← call.number 0)

def places (call : Call) : Except Error Expr :=
  if call.has 1 then do
    return call.dialect.boundedInt (← call.numberOrZero 1) (-15) 15
  else .ok 0

/-- A number rounded to places. SQLite has no negative places, so that it is scaled there. -/
def roundOf (dialect : Dialect) (x places : Expr) : Expr :=
  match dialect with
  | .postgres => (Expr.call "ROUND" [x.cast .numeric, places]).cast .double
  | .sqlite =>
    let scale := Expr.call "POWER" [.number "10.0", - places]
    .caseWhen [⟨places.ge 0, .call "ROUND" [x, places]⟩]
      (some (.call "ROUND" [x / scale] * scale))

def round (call : Call) : Except Error Expr := do
  return roundOf call.dialect (← call.number 0) (← call.places)

/-- A number rounded to places without regard to its sign, in the direction of `rounding`. -/
def roundMagnitude (dialect : Dialect) (rounding : String) (x places : Expr) : Expr :=
  let scaled := fun x scale : Expr =>
    .call "SIGN" [x] * .call rounding [.call "ABS" [x] * scale] / scale
  match dialect with
  | .postgres =>
    (scaled (x.cast .numeric) (.call "POWER" [(10 : Expr).cast .numeric, places])).cast .double
  | .sqlite => scaled x (.call "POWER" [.number "10.0", places])

def roundUp (call : Call) : Except Error Expr := do
  return roundMagnitude call.dialect "CEIL" (← call.number 0) (← call.places)

def roundDown (call : Call) : Except Error Expr := do
  return roundMagnitude call.dialect "FLOOR" (← call.number 0) (← call.places)

end SheetSql.Call
