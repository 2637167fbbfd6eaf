import SheetSql.Coerce.Json

namespace SheetSql.Coerce

/-! Numbers out of text and text out of numbers. -/

def dateStart : Regex :=
  .start ++ Regex.blank.many ++ Regex.digit.times 4 ++ .char '-' ++ Regex.digit.between 1 2 ++
    .char '-' ++ Regex.digit.between 1 2

def plainNumber : Regex := .start ++ plainDecimal ++ .finish

def decoration : Regex :=
  .set (.except [.span '0' '9', .one '.', .one '+', .one '-'])

def decorations : List String := [",", "_", " ", "$", "€", "£", "¥", "%"]

/--
The number that a text spells once its decoration is gone, and null where that is no number or
the text is a date.
-/
def looseNumber (dialect : Dialect) (e : Expr) : Expr :=
  match dialect with
  | .postgres =>
    let t := e.cast .text
    let bare :=
      Expr.call "REGEXP_REPLACE" [t, .text decoration.text, .text "", .text "g"]
    .caseWhen
      [⟨regexMatch t dateStart, .null⟩,
       ⟨regexMatch t numericText, t.cast .double⟩,
       ⟨regexMatch bare plainNumber, bare.cast .double⟩]
      none
  | .sqlite =>
    let t := Expr.call "TRIM" [e.cast .text]
    let bare := decorations.foldl (fun s sign => .call "REPLACE" [s, .text sign, .text ""]) t
    let date : Glob :=
      List.replicate 4 .digit ++
        [.char '-', .digit, .anyRun, .char '-', .digit, .anyRun]
    .caseWhen
      [⟨isNumberType (.call "typeof" [e]), e⟩,
       ⟨globMatch t date, .null⟩,
       ⟨bare.eq (.text ""), .null⟩,
       ⟨globMatch bare
          (.having (.set (.except [.span '0' '9', .one '.', .one '+', .one '-']))), .null⟩,
       ⟨.not (globMatch bare (.having .digit)), .null⟩,
       ⟨globMatch (.call "substr" [bare, 2]) (.having (.oneOf "+-")), .null⟩,
       ⟨globMatch bare [.anyRun, .char '.', .anyRun, .char '.', .anyRun], .null⟩]
      (some (bare.cast .double))

def numberText (dialect : Dialect) (e : Expr) : Expr :=
  match dialect with
  | .postgres => e.cast .text
  | .sqlite =>
    let whole := e.cast .integer
    .caseWhen [⟨e.eq whole, whole.cast .text⟩] (some (e.cast .text))

end SheetSql.Coerce
