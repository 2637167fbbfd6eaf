import SheetSql.Match.Glob
import SheetSql.Match.Regex
import SheetSql.Sql.Build
import SheetSql.Target

namespace SheetSql.Coerce

/-!
Values of JSON cells. A cell holds an array of elements, or one value that counts as its only
element.
-/

def regexMatch (e : Expr) (regex : Regex) : Expr := .binary e .regexMatch (.text regex.text)

def globMatch (e : Expr) (glob : Glob) : Expr := .binary e .glob (.text glob.text)

def jsonbType (e : Expr) : Expr := .call "jsonb_typeof" [e]

def asArray (e : Expr) : Expr :=
  let json := e.cast .jsonb
  .caseWhen [⟨(jsonbType json).eq (.text "array"), json⟩]
    (some (.call "jsonb_build_array" [json]))

def jsonbMember (e : Expr) (name : String) : Expr := .binary e .jsonGet (.text name)

def jsonbText (e : Expr) : Expr := .binary e .jsonPath (.text "\x7b\x7d")

def elementText (x : Expr) : Expr :=
  .caseWhen
    [⟨(jsonbType x).eq (.text "object"),
      .coalesce [jsonbMember x "title", jsonbMember x "name", x.cast .text]⟩]
    (some (jsonbText x))

def jsonValid (e : Expr) : Expr := .call "json_valid" [e]

def jsonType (e : Expr) : Expr := .call "json_type" [e]

def jsonExtract (e : Expr) (path : String) : Expr := .call "json_extract" [e, .text path]

/-- A cell as JSON; what is not JSON becomes an array of one. -/
def asJson (e : Expr) : Expr :=
  .caseWhen [⟨jsonValid e, e⟩] (some (.call "json_array" [e]))

def each (e : Expr) : Source := .rows (.call "json_each" [asJson e]) "__el" []

def eachColumn (name : String) : Expr := .column (some "__el") name

def isNumberType (type : Expr) : Expr := type.isIn [.text "integer", .text "real"]

/-- Whether a text is a decimal number, when signs before it are passed over. -/
def isDecimalText (value : Expr) : Expr :=
  let digits := Expr.call "ltrim" [.call "trim" [value], .text "+-"]
  .chain .and
    [digits.ne (.text ""),
     .not (globMatch digits (.having (.set (.except [.span '0' '9', .one '.'])))),
     globMatch digits (.having .digit),
     .not (globMatch digits [.anyRun, .char '.', .anyRun, .char '.', .anyRun])]

/-- A decimal number of at most 200 digits before and after the point, with or without a sign. -/
def plainDecimal : Regex :=
  (Regex.oneOf "+-").opt ++
    .capture
      (Regex.digit.between 1 200 ++
          (Regex.capture (.char '.' ++ Regex.digit.between 0 200)).opt <|>
        .char '.' ++ Regex.digit.between 1 200)

/--
A number that a double can hold: digits are bounded, and so is the power of ten. There may be
blanks around it.
-/
def numericText : Regex :=
  .start ++ Regex.blank.many ++ plainDecimal ++
    (Regex.capture
      (Regex.oneOf "eE" ++ (Regex.oneOf "+-").opt ++ Regex.digit.between 1 2)).opt ++
    Regex.blank.many ++ .finish

def jsonNumber (dialect : Dialect) (aggregate : String) (e : Expr) : Expr :=
  match dialect with
  | .postgres =>
    let value := Expr.column none "__v"
    .subquery
      { Select.value (.call aggregate [value.cast .double]) with
        source := some (.rows (.call "jsonb_array_elements_text" [asArray e]) "__el" ["__v"])
        filter := some (regexMatch value numericText) }
  | .sqlite =>
    let type := eachColumn "type"
    let value := eachColumn "value"
    .subquery
      { Select.value (.call aggregate [value.cast .double]) with
        source := some (each e)
        filter := some
          ((isNumberType type).or ((type.eq (.text "text")).and (isDecimalText value))) }

def jsonCount (dialect : Dialect) (e : Expr) : Expr :=
  match dialect with
  | .postgres =>
    let x := Expr.column none "__x"
    .subquery
      { Select.value (.call "COUNT" [x]) with
        source := some (.rows (.call "jsonb_array_elements" [asArray e]) "__el" ["__x"])
        filter := some (.member (x.cast .text) [.text "null", .text "\"\""] true) }
  | .sqlite =>
    let type := eachColumn "type"
    .subquery
      { Select.value (.call "COUNT" [type]) with
        source := some (each e)
        filter := some
          ((type.ne (.text "null")).and
            (.not ((type.eq (.text "text")).and ((eachColumn "value").eq (.text ""))))) }

def jsonJoin (dialect : Dialect) (separator e : Expr) : Expr :=
  match dialect with
  | .postgres =>
    let x := Expr.column none "__x"
    .subquery
      { Select.value
          (.aggregate "string_agg" [elementText x, separator.cast .text]
            [.column none "__n"]) with
        source := some
          (.numberedRows (.call "jsonb_array_elements" [asArray e]) "__el" ["__x", "__n"])
        filter := some ((jsonbType x).ne (.text "null")) }
  | .sqlite =>
    let type := eachColumn "type"
    let value := eachColumn "value"
    let element :=
      Expr.caseOf type
        [⟨.text "object",
          .coalesce [jsonExtract value "$.title", jsonExtract value "$.name", value]⟩,
         ⟨.text "true", .text "true"⟩,
         ⟨.text "false", .text "false"⟩]
        (some value)
    .subquery
      { Select.value (.call "group_concat" [element, separator]) with
        source := some (each e)
        filter := some (type.ne (.text "null")) }

def jsonText (dialect : Dialect) (e : Expr) : Expr :=
  match dialect with
  | .postgres =>
    let json := e.cast .jsonb
    let plain := jsonbText json
    .caseOf (jsonbType json)
      [⟨.text "object", .coalesce [jsonbMember json "title", jsonbMember json "name", plain]⟩,
       ⟨.text "null", .null⟩]
      (some plain)
  | .sqlite =>
    let type := jsonType e
    .caseWhen
      [⟨e.isNull, .null⟩,
       ⟨.not (jsonValid e), e.cast .text⟩,
       ⟨type.eq (.text "object"),
        .coalesce [jsonExtract e "$.title", jsonExtract e "$.name", e]⟩,
       ⟨type.isIn [.text "true", .text "false"], type⟩,
       ⟨type.eq (.text "null"), .null⟩]
      (some (jsonExtract e "$"))

def jsonLength (dialect : Dialect) (e : Expr) : Expr :=
  match dialect with
  | .postgres =>
    let json := e.cast .jsonb
    .caseWhen
      [⟨json.isNull, 0⟩,
       ⟨(jsonbType json).eq (.text "array"), .call "jsonb_array_length" [json]⟩,
       ⟨(jsonbType json).eq (.text "null"), 0⟩]
      (some 1)
  | .sqlite =>
    let type := jsonType e
    .caseWhen
      [⟨e.isNull, 0⟩,
       ⟨.not (jsonValid e), 1⟩,
       ⟨type.eq (.text "array"), .call "json_array_length" [e]⟩,
       ⟨type.eq (.text "null"), 0⟩]
      (some 1)

def jsonTruth (e : Expr) : Expr :=
  e.isNotNull.and
    (.member (e.cast .text)
      [.text "null", .text "[]", .text "\x7b\x7d", .text "", .text "\"\""] true)

end SheetSql.Coerce
