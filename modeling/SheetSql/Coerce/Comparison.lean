import SheetSql.Coerce.Site

namespace SheetSql.Site

/-! Comparisons. A blank is the empty text to a text and zero to a number. -/

def compareTexts (site : Site) (op : BinOp) (left right : Operand) : Except Error Expr := do
  return .binary (← site.toTextOrEmpty left) op (← site.toTextOrEmpty right)

def compareNumbers (site : Site) (op : BinOp) (left right : Operand) : Except Error Expr := do
  return .binary (← site.toNumberOrZero left) op (← site.toNumberOrZero right)

def compareDatetimes (site : Site) (op : BinOp) (left right : Operand) : Expr :=
  .binary (site.toDatetime left) op (site.toDatetime right)

def equal (site : Site) (negated : Bool) (left right : Operand) : Except Error Expr :=
  let op : BinOp := if negated then .ne else .eq
  let isText := fun operand : Operand => operand.isTextLike || operand.isBlank
  if isText left || isText right then site.compareTexts op left right
  else if left.isDatetimeLike || right.isDatetimeLike then
    .ok (site.compareDatetimes op left right)
  else if left.kind == .boolean && right.kind == .boolean then do
    return .binary (← site.toBool left) op (← site.toBool right)
  else if left.isNumberLike && right.isNumberLike then site.compareNumbers op left right
  else site.compareTexts op left right

def compare (site : Site) (op : BinOp) (left right : Operand) : Except Error Expr :=
  if left.isDatetimeLike || right.isDatetimeLike then
    .ok (site.compareDatetimes op left right)
  else if (left.isNumberLike || right.isNumberLike) && !left.isTextLike && !right.isTextLike then
    site.compareNumbers op left right
  else site.compareTexts op left right

end SheetSql.Site
