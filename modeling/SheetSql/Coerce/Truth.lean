import SheetSql.Coerce.Json

namespace SheetSql.Coerce

/-! Truth, which is never null. -/

def boolTruth (dialect : Dialect) (e : Expr) : Expr :=
  match dialect with
  | .postgres => e.orElse (.bool false)
  | .sqlite => (e.orElse 0).ne 0

/-- Zero in any spelling, such as `-0.00` and `0e5`. -/
def zeroText : Regex :=
  .start ++ Regex.blank.many ++ (Regex.oneOf "+-").opt ++ (Regex.char '0').many ++
    (Regex.char '.').opt ++ (Regex.char '0').many ++
    (Regex.capture (Regex.oneOf "eE" ++ Regex.anyChar.many)).opt ++ Regex.blank.many ++ .finish

def numberTypes : List String :=
  ["integer", "bigint", "smallint", "numeric", "real", "double precision"]

def unknownTruth (target : Target) (e : Expr) : Expr :=
  let falseTexts := [Expr.text "", .text "null"]
  match target.dialect, target.placement with
  | .postgres, .generated =>
    .member (.call "LOWER" [(e.cast .text).orElse (.text "")])
      (["", "null", "false", "0", "[]", "\x7b\x7d"].map .text) true
  | .postgres, .select =>
    let t := Expr.call "LOWER" [(e.cast .text).orElse (.text "")]
    let type := (Expr.call "pg_typeof" [e]).cast .text
    .caseWhen
      [⟨e.isNull, .bool false⟩,
       ⟨type.eq (.text "boolean"), t.eq (.text "true")⟩,
       ⟨type.isIn (numberTypes.map .text), .not (regexMatch t zeroText)⟩]
      (some (.member t falseTexts true))
  | .sqlite, _ =>
    .caseOf (.call "typeof" [e])
      [⟨.text "null", .bool false⟩,
       ⟨.text "integer", e.ne 0⟩,
       ⟨.text "real", e.ne 0⟩]
      (some (.member (.call "LOWER" [e.cast .text]) falseTexts true))

end SheetSql.Coerce
