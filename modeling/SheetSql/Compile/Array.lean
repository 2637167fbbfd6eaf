import SheetSql.Compile.Numeric

namespace SheetSql

/-! Counts of values and arrays of them. -/

open Coerce

namespace Call

def countAll (call : Call) : Expr :=
  let operand := call.operand 0
  match operand.kind with
  | .json => jsonLength call.dialect operand.expr
  | .blank => 0
  | _ => presence operand.expr

def valueCount (call : Call) (operand : Operand) : Except Error Expr :=
  match operand.kind with
  | .blank => .ok 0
  | .json => do
      call.needSubquery
      return jsonCount call.dialect operand.expr
  | .text => .ok (.ite ((operand.expr.orElse (.text "")).eq (.text "")) 0 1)
  | _ => .ok (presence operand.expr)

def countA (call : Call) : Except Error Expr := do
  return .sequence .add (← call.operands.mapM call.valueCount)

def count (call : Call) : Except Error Expr := do
  let counts ← call.operands.mapM fun operand =>
    match operand.kind with
    | .text | .boolean | .datetime => .ok 0
    | _ => call.numberCount operand
  return .sequence .add counts

def arrayJoin (call : Call) : Except Error Expr := do
  let operand := call.operand 0
  let separator ← if call.has 1 then call.textOrEmpty 1 else .ok (.text ", ")
  match operand.kind with
  | .json =>
    call.needSubquery
    return jsonJoin call.dialect separator operand.expr
  | _ => call.toText operand

end Call

inductive ArrayMode where
  | unique
  /-- The elements, with those of an element that is an array in its place. -/
  | flatten
  | compact
  deriving DecidableEq, Repr, Inhabited

/-!
The elements of all arguments are put into one table. Its columns are the number of the argument,
the position of the element, its position in an element that is an array, and the element; the
first three give the order of the result.
-/

namespace Elements

def column (name : String) : Expr := .column none name

def kept (name : String) : Projection := ⟨column name, some name⟩

def named (value : Expr) (name : String) : Projection := ⟨value, some name⟩

def order : List Expr := [column "__s", column "__n", column "__m"]

def elementColumn : Dialect → String
  | .postgres => "__x"
  | .sqlite => "__j"

def columns (dialect : Dialect) : List String := ["__s", "__n", "__m", elementColumn dialect]

def asJsonb (site : Site) (operand : Operand) : Except Error Expr :=
  match operand.kind with
  | .json => .ok (operand.expr.cast .jsonb)
  | .number => do return .call "to_jsonb" [← site.toNumber operand]
  | .boolean => .ok (.call "to_jsonb" [operand.expr])
  | _ => do return .call "to_jsonb" [← site.toText operand]

def asJsonArray (site : Site) (operand : Operand) : Except Error Expr :=
  match operand.kind with
  | .json => .ok operand.expr
  | .number => do return .call "json_array" [← site.toNumber operand]
  | .boolean => do
      let word := Expr.ite (← site.toBool operand) (.text "true") (.text "false")
      return .call "json_array" [.call "json" [word]]
  | _ => do return .call "json_array" [← site.toText operand]

def rowJson (source : String) : Expr :=
  let value := Expr.column (some source) "value"
  .caseOf (.column (some source) "type")
    [⟨.text "true", .text "true"⟩,
     ⟨.text "false", .text "false"⟩,
     ⟨.text "null", .text "null"⟩,
     ⟨.text "object", value⟩,
     ⟨.text "array", value⟩]
    (some (.call "json_quote" [value]))

def memberPostgres (mode : ArrayMode) (i : Nat) (json : Expr) : Select :=
  let source := Source.numberedRows (.call "jsonb_array_elements" [asArray json]) "__el"
    ["__x", "__n"]
  match mode with
  | .flatten =>
    let x := column "__x"
    let nested :=
      Expr.ite ((jsonbType x).eq (.text "array")) x (.call "jsonb_build_array" [x])
    { Select.of
        [named (.int i) "__s", kept "__n", kept "__m", named (column "__y") "__x"] with
      source := some source
      join := some
        (.numberedRows (.call "jsonb_array_elements" [nested]) "__in" ["__y", "__m"])
      filter := some (json.isNotNull.and (column "__m").isNotNull) }
  | .unique | .compact =>
    { Select.of [named (.int i) "__s", kept "__n", named 0 "__m", kept "__x"] with
      source := some source
      filter := some json.isNotNull }

def memberSqlite (mode : ArrayMode) (i : Nat) (operand json : Expr) : Select :=
  match mode with
  | .flatten =>
    let nested :=
      Expr.ite ((eachColumn "type").eq (.text "array")) (eachColumn "value")
        (.call "json_array" [.call "json" [rowJson "__el"]])
    let innerKey := Expr.column (some "__in") "key"
    { Select.of
        [named (.int i) "__s", named (eachColumn "key") "__n", named innerKey "__m",
         named (rowJson "__in") "__j"] with
      source := some (each json)
      join := some (.rows (.call "json_each" [nested]) "__in" [])
      filter := some (operand.isNotNull.and innerKey.isNotNull) }
  | .unique | .compact =>
    { Select.of
        [named (.int i) "__s", named (eachColumn "key") "__n", named 0 "__m",
         named (rowJson "__el") "__j"] with
      source := some (each json)
      filter := some operand.isNotNull }

def member? (site : Site) (mode : ArrayMode) (i : Nat) (operand : Operand) :
    Except Error (Option Select) :=
  if operand.isBlank then .ok none
  else
    match site.target.dialect with
    | .postgres => do return some (memberPostgres mode i (← asJsonb site operand))
    | .sqlite => do
        return some (memberSqlite mode i operand.expr (← asJsonArray site operand))

def ranked (dialect : Dialect) (all : Source) : Source :=
  let rank := Expr.window "row_number" [] [column (elementColumn dialect)] order
  .union
    [{ Select.of ((columns dialect).map kept ++ [named rank "__r"]) with source := some all }]
    "__ranked" (columns dialect ++ ["__r"])

def keptRows (dialect : Dialect) (mode : ArrayMode) (all : Source) (query : Select) : Select :=
  let element := column (elementColumn dialect)
  match mode with
  | .unique =>
    { query with source := some (ranked dialect all), filter := some ((column "__r").eq 1) }
  | .compact =>
    let json :=
      match dialect with
      | .postgres => element.cast .text
      | .sqlite => element
    { query with
      source := some all
      filter := some (.member json [.text "null", .text "\"\""] true) }
  | .flatten => { query with source := some all }

def collected (dialect : Dialect) (mode : ArrayMode) (all : Source) : Expr :=
  match dialect with
  | .postgres =>
    .subquery
      (keptRows dialect mode all
        (.value (.aggregate "jsonb_agg" [column "__x"] order)))
  | .sqlite =>
    let rows := { keptRows dialect mode all (.of [kept "__j"]) with order }
    let array := Expr.call "json_group_array" [.call "json" [column "__j"]]
    .subquery
      { Select.value (array.nullIf (.text "[]")) with
        source := some (.union [rows] "__ord" ["__j"]) }

end Elements

def Call.arrayOf (call : Call) (mode : ArrayMode) : Except Error Expr := do
  call.needSubquery
  let members ← (call.operands.mapIdx fun i operand => (i, operand)).mapM
    fun (i, operand) => Elements.member? call.toSite mode i operand
  match members.filterMap id with
  | [] => return .null
  | members =>
    let all := Source.union members "__all" (Elements.columns call.dialect)
    return Elements.collected call.dialect mode all

end SheetSql
