import SheetSql.Proofs.Meaning.Elements
import SheetSql.Proofs.Meaning.Number

namespace SheetSql

/-!
What the engines make of all values that a row can hold. SQLite has a result for values of any
class, where Postgres fails on those of another type. A result of `none` stands for a failure, and
also for what is left open here.
-/

namespace Chars

def leadingInteger (cs : List Char) : Int :=
  let (negative, rest) := Decimal.readSign (cs.dropWhile isSpace)
  let size : Int := Decimal.natOf (rest.takeWhile Char.isDigit)
  if negative then -size else size

end Chars

namespace Value

/-- Whether a value counts as true. A text on SQLite counts by the number that it starts with. -/
def holds? (dialect : Dialect) : Value → Option (Option Bool)
  | .text cs | .other cs =>
    if dialect = .sqlite then some (some (Chars.leadingNumber cs != 0)) else none
  | value => value.truth? dialect

def same? (dialect : Dialect) (a b : Value) : Option (Option Bool) :=
  (a.equal? b).or (if dialect = .sqlite then some (some (decide (a = b))) else none)

def remainder? (dialect : Dialect) (a b : Value) : Option Value :=
  if a = .null ∨ b = .null then some .null
  else do
    let m ← a.int?
    let n ← b.int?
    if n = 0 then
      match dialect with
      | .postgres => none
      | .sqlite => some .null
    else return .int (m.tmod n)

def castReal (dialect : Dialect) : Value → Option Value
  | .other cs => if dialect = .sqlite then some (.real (Chars.leadingNumber cs)) else none
  | value => value.castDouble dialect

def ofBounded (n : Int) : Value :=
  .int (max (-9223372036854775808) (min n 9223372036854775807))

/-- An integer from a value on SQLite, which cuts off the fraction of a number. -/
def castWhole : Value → Value
  | .null => .null
  | .bool b => .int (if b then 1 else 0)
  | .int n => .int n
  | .real q => ofBounded (q.num.tdiv q.den)
  | .text cs => ofBounded (Chars.leadingInteger cs)
  | .other cs => ofBounded (Chars.leadingInteger cs)

def sum? (values : List Value) : Option Value :=
  match values.filter (· ≠ .null) with
  | [] => some .null
  | first :: rest => rest.foldlM (arithmetic (· + ·) (· + ·)) first

def joined : List (List Char × List Char) → Value
  | [] => .null
  | (first, _) :: rest => .text (first ++ rest.flatMap fun item => item.2 ++ item.1)

end Value

namespace Json

variable (write : Json → List Char)

/-- The text of a value on Postgres. That of a string is its content, and a null has none. -/
def text? : Json → Option (List Char)
  | .null => none
  | .text content => some content.toList
  | json => some (write json)

def className : Json → String
  | .null => "null"
  | .bool b => if b then "true" else "false"
  | .number decimal => if decimal.exponent = 0 then "integer" else "real"
  | .text _ => "text"
  | .array _ => "array"
  | .object _ => "object"

/-- A value as one of SQL on SQLite. An array or object stays JSON. -/
def stored : Json → Value
  | .null => .null
  | .bool b => .int (if b then 1 else 0)
  | .number decimal =>
    if decimal.exponent = 0 then
      .int (if decimal.negative then -decimal.digits else decimal.digits)
    else .real decimal.value
  | .text content => .text content.toList
  | json => .text (write json)

def named? (json : Json) (name : List Char) : Option Json :=
  match json with
  | .object members => members.lookup (String.ofList name)
  | _ => none

/-- What is at a path, which leads to the value itself or to one of its members. -/
def at? (json : Json) : List Char → Option (Option Json)
  | ['$'] => some (some json)
  | '$' :: '.' :: name => some (json.named? name)
  | _ => none

end Json

/-- An engine, with its functions whose results only matter by their types. -/
structure Database extends Engine where
  lower : List Char → List Char
  /-- The name of the type that an expression has on Postgres, by the text of the expression. -/
  typeOf : String → List Char
  /-- What the clock of a zone shows at a moment on Postgres. -/
  wall : (moment zone : List Char) → List Char
  /-- The text of a time of a clock by a template on Postgres. -/
  toChar : (time template : List Char) → List Char
  /-- The text of a moment by a format on SQLite, for values that are moments. -/
  strftime : (format : List Char) → Value → Option (List Char)
  write : Json → List Char
  wrap : Value → List Char
  write_json : ∀ json, (json? (write json)).isSome
  wrap_json : ∀ value, ∃ item, json? (wrap value) = some (.array [item])

namespace Database

variable (db : Database)

def ofText (f : List Char → List Char) (value : Value) : Option Value :=
  match db.dialect, value with
  | _, .null => some .null
  | .postgres, .text cs => some (.text (f cs))
  | .postgres, _ => none
  | .sqlite, _ => some ((value.text? db.shown).elim .null fun cs => .text (f cs))

/-- The JSON value of an argument on SQLite, which fails on what is no JSON. -/
def withJson (value : Value) (f : Json → Option Value) : Option Value :=
  if value = .null then some .null else (db.jsonOf value).bind f

def applyJson (function : String) (args : List Value) : Option Value :=
  match function, args with
  | "json_valid", [value] =>
    some (if value = .null then .null else .ofBool .sqlite (db.jsonOf value).isSome)
  | "json_type", [value] => db.withJson value fun json => some (.text json.className.toList)
  | "json_extract", [value, .text path] =>
    db.withJson value fun json =>
      (json.at? path).map fun found => found.elim .null (Json.stored db.write)
  | "json_array", [.other _] => none
  | "json_array", [value] => some (.text (db.wrap value))
  | _, _ => none

def applyValues (function : String) (args : List Value) : Option Value :=
  match function, args with
  | "LOWER", [value] => db.ofText db.lower value
  | "trim", [value] => db.ofText (Chars.strip (· == ' ')) value
  | "ltrim", [value, .text drops] => db.ofText (List.dropWhile drops.contains) value
  | "typeof", [value] => some (.text value.typeName.toList)
  | "to_char", [.null, _] => some .null
  | "to_char", [.other time, .text template] => some (.text (db.toChar time template))
  | "strftime", [.text format, value] =>
    some ((db.strftime format value).elim .null fun cs => .text cs)
  | _, _ => db.applyJson function args

def apply (function : String) (args : List Datum) : Option Datum :=
  match function, args with
  | "jsonb_typeof", [.json json] => some (.value (.text json.typeName.toList))
  | "jsonb_typeof", [.value .null] => some (.value .null)
  | "jsonb_build_array", [.json json] => some (.json (.array [json]))
  | "jsonb_build_array", [.value .null] => some (.json (.array [.null]))
  | _, _ => ((args.mapM Datum.scalar?).bind (db.applyValues function)).map .value

noncomputable def binaryValue (op : BinOp) (areIntegers : Bool) (a b : Value) : Option Value :=
  let truth := Value.ofTruth db.dialect
  match op with
  | .eq => (a.same? db.dialect b).map truth
  | .ne => (a.same? db.dialect b).map fun equal => truth (equal.map (!·))
  | .and => do return truth (Value.andTruth (← a.holds? db.dialect) (← b.holds? db.dialect))
  | .or => do return truth (Value.orTruth (← a.holds? db.dialect) (← b.holds? db.dialect))
  | .mod => a.remainder? db.dialect b
  | .jsonGet | .jsonPath => if a = .null ∨ b = .null then some .null else none
  | _ => db.toRow.binary op areIntegers a b

noncomputable def binary (op : BinOp) (areIntegers : Bool) : Datum → Datum → Option Datum
  | .value a, .value b => (db.binaryValue op areIntegers a b).map .value
  | .json json, .value (.text name) =>
    match op with
    | .jsonGet => some (.ofText? ((json.named? name).bind (Json.text? db.write)))
    | .jsonPath =>
      if name = "\x7b\x7d".toList then some (.ofText? (json.text? db.write)) else none
    | _ => none
  | _, _ => none

noncomputable def chain (op : BinOp) (areIntegers : Bool) : List Datum → Option Datum
  | [] => none
  | first :: rest => rest.foldlM (db.binary op areIntegers) first

def unary : UnOp → Datum → Option Datum
  | .not, .value a => do return .value (.ofTruth db.dialect ((← a.holds? db.dialect).map (!·)))
  | .neg, .value a => (Value.arithmetic (· - ·) (· - ·) (.int 0) a).map .value
  | _, _ => none

def cast (type : SqlType) : Datum → Option Datum
  | .value value =>
    match type, db.dialect with
    | .text, _ => some (.value (value.castText db.shown))
    | .double, dialect => (value.castReal dialect).map .value
    | .integer, .postgres => value.castInteger.map .value
    | .integer, .sqlite => some (.value value.castWhole)
    | .jsonb, _ => db.castJson (.value value)
    | _, _ => none
  | .json json =>
    match type with
    | .text => some (.value (.text (db.write json)))
    | .jsonb => some (.json json)
    | _ => none
  | _ => none

def atTimeZone : Datum → Datum → Option Datum
  | .value .null, _ => some (.value .null)
  | .value (.other moment), .value (.text zone) => some (.value (.other (db.wall moment zone)))
  | _, _ => none

abbrev Scope : Type := Option String → String → Option Datum

def columns (function : String) (names : List String) (ordinality : Bool) (i : Nat)
    (item : Json) : List (String × Datum) :=
  if function = "json_each" then
    [("value", .value (item.stored db.write)), ("type", .value (.text item.className.toList))]
  else
    names.zip
      ((if function = "jsonb_array_elements_text" then .ofText? (item.text? db.write)
        else .json item) :: if ordinality then [.value (.int (i + 1))] else [])

def rowScope (function label : String) (names : List String) (ordinality : Bool) (i : Nat)
    (item : Json) : Scope :=
  fun qualifier name =>
    if qualifier.all (· == label) then (db.columns function names ordinality i item).lookup name
    else none

def keep? {α : Type} (p : α → Option Bool) : List α → Option (List α)
  | [] => some []
  | a :: rest => do
      let more ← keep? p rest
      return if ← p a then a :: more else more

def sorted {α : Type} (rows : List (Int × α)) : List α :=
  (rows.mergeSort fun a b => a.1 ≤ b.1).map Prod.snd

/-- A text with its separator. On Postgres both have to be texts. -/
def item? (row : List Value) : Option (Option (List Char × List Char)) :=
  match db.dialect, row with
  | _, [.null, _] => some none
  | .postgres, [.text cs, .text separator] => some (some (cs, separator))
  | .sqlite, [value, separator] =>
    some ((value.text? db.shown).map fun cs => (cs, (separator.text? db.shown).getD []))
  | _, _ => none

def aggregate (function : String) (rows : List (List Value)) : Option Value :=
  match function with
  | "SUM" => (rows.mapM List.head?).bind Value.sum?
  | "COUNT" => some (.int (rows.countP fun row => row.head? != some .null))
  | "string_agg" | "group_concat" => do
      return .joined ((← rows.mapM db.item?).filterMap id)
  | _ => none

end Database

end SheetSql
