import SheetSql.Sql.Expr
import SheetSql.Sql.Literal
import SheetSql.Target
import SheetSql.Text.Joined

namespace SheetSql

/-!
The text of an expression. Every operator is printed with brackets around it, so the text never
depends on precedence or on what surrounds it.
-/

open Text Sql

def BinOp.symbol : BinOp → String
  | .add => " + "
  | .sub => " - "
  | .mul => " * "
  | .div => " / "
  | .mod => " % "
  | .eq => " = "
  | .ne => " <> "
  | .lt => " < "
  | .le => " <= "
  | .gt => " > "
  | .ge => " >= "
  | .and => " AND "
  | .or => " OR "
  | .concat => " || "
  | .regexMatch => " ~ "
  | .glob => " GLOB "
  | .jsonGet => " ->> "
  | .jsonPath => " #>> "

def UnOp.symbol : UnOp → String
  | .not => "NOT "
  | .neg => "-"

/-- SQLite has three types of values; a moment or a JSON value is text there. -/
def SqlType.name : Dialect → SqlType → String
  | .postgres, .double => "DOUBLE PRECISION"
  | .postgres, .numeric => "NUMERIC"
  | .postgres, .integer => "INTEGER"
  | .postgres, .text => "TEXT"
  | .postgres, .timestamp => "TIMESTAMP"
  | .postgres, .timestampTz => "TIMESTAMPTZ"
  | .postgres, .date => "DATE"
  | .postgres, .jsonb => "JSONB"
  | .sqlite, .double => "REAL"
  | .sqlite, .numeric => "NUMERIC"
  | .sqlite, .integer => "INTEGER"
  | .sqlite, _ => "TEXT"

def printBool : Dialect → Bool → String
  | .postgres, true => "TRUE"
  | .postgres, false => "FALSE"
  | .sqlite, true => "1"
  | .sqlite, false => "0"

/-- A number with a minus stands in brackets: after another minus it would open a comment. -/
def printNumber (digits : String) : String :=
  match digits.toList with
  | '-' :: _ => "(" ++ digits ++ ")"
  | _ => digits

def printTyped (dialect : Dialect) (type : SqlType) (content : String) : String :=
  match dialect with
  | .postgres => type.name .postgres ++ " " ++ quoteText content
  | .sqlite => quoteText content

def printColumn (qualifier : Option String) (name : String) : String :=
  match qualifier with
  | some table => quoteName table ++ "." ++ quoteName name
  | none => quoteName name

/-- SQL text as an operand: without blanks around it, and in brackets unless it is atomic. -/
def printFragment (sql : String) : String :=
  if isAtomic sql then trimmed sql else "(" ++ trimmed sql ++ ")"

def printClause (word : String) (items : List String) : String :=
  if items.isEmpty then "" else word ++ joined ", " items

def printNames (names : List String) : String :=
  "(" ++ joined ", " (names.map quoteName) ++ ")"

def printAlias (dialect : Dialect) (label : String) (columns : List String) : String :=
  " AS " ++ quoteName label ++
    match dialect with
    | .postgres => if columns.isEmpty then "" else printNames columns
    | .sqlite => ""

def printLabel : Option String → String
  | some label => " AS " ++ quoteName label
  | none => ""

def printCommon (name : String) (columns : List String) (anchor step : String) : String :=
  "WITH RECURSIVE " ++ quoteName name ++ printNames columns ++ " AS (" ++ anchor ++
    " UNION ALL " ++ step ++ ") "

mutual

def Expr.print (dialect : Dialect) : Expr → String
  | .null => "NULL"
  | .bool value => printBool dialect value
  | .number digits => printNumber digits
  | .text content => quoteText content
  | .typed type content => printTyped dialect type content
  | .column qualifier name => printColumn qualifier name
  | .fragment sql => printFragment sql
  | .call function args => function ++ "(" ++ joined ", " (printEach dialect args) ++ ")"
  | .aggregate function args order =>
    function ++ "(" ++ joined ", " (printEach dialect args) ++
      printClause " ORDER BY " (printEach dialect order) ++ ")"
  | .window function args part order =>
    function ++ "(" ++ joined ", " (printEach dialect args) ++ ") OVER (" ++
      printClause "PARTITION BY " (printEach dialect part) ++
      (if part.isEmpty || order.isEmpty then "" else " ") ++
      printClause "ORDER BY " (printEach dialect order) ++ ")"
  | .binary left op right =>
    "(" ++ left.print dialect ++ op.symbol ++ right.print dialect ++ ")"
  | .chain op items => "(" ++ joined op.symbol (printEach dialect items) ++ ")"
  | .unary op operand => "(" ++ op.symbol ++ operand.print dialect ++ ")"
  | .nullTest operand negated =>
    "(" ++ operand.print dialect ++ (if negated then " IS NOT NULL)" else " IS NULL)")
  | .member operand list negated =>
    "(" ++ operand.print dialect ++ (if negated then " NOT IN (" else " IN (") ++
      joined ", " (printEach dialect list) ++ "))"
  | .cast operand type => "CAST(" ++ operand.print dialect ++ " AS " ++ type.name dialect ++ ")"
  | .case subject branches otherwise =>
    "CASE" ++ printOptional dialect " " subject ++ printBranches dialect branches ++
      printOptional dialect " ELSE " otherwise ++ " END"
  | .atTimeZone operand zone =>
    "(" ++ operand.print dialect ++ " AT TIME ZONE " ++ zone.print dialect ++ ")"
  | .extract field operand => "EXTRACT(" ++ field ++ " FROM " ++ operand.print dialect ++ ")"
  | .subscript array index => "(" ++ array.print dialect ++ ")[" ++ index.print dialect ++ "]"
  | .slice array lower upper =>
    "(" ++ array.print dialect ++ ")[" ++ printOptional dialect "" lower ++ ":" ++
      printOptional dialect "" upper ++ "]"
  | .subquery query => "(" ++ query.print dialect ++ ")"

def printEach (dialect : Dialect) : List Expr → List String
  | [] => []
  | e :: rest => e.print dialect :: printEach dialect rest

def printOptional (dialect : Dialect) (word : String) : Option Expr → String
  | none => ""
  | some e => word ++ e.print dialect

def printBranches (dialect : Dialect) : List Branch → String
  | [] => ""
  | ⟨condition, value⟩ :: rest =>
    " WHEN " ++ condition.print dialect ++ " THEN " ++ value.print dialect ++
      printBranches dialect rest

def printProjections (dialect : Dialect) : List Projection → List String
  | [] => []
  | ⟨value, label⟩ :: rest =>
    (value.print dialect ++ printLabel label) :: printProjections dialect rest

def Select.print (dialect : Dialect) : Select → String
  | ⟨recursion, columns, source, join, filter, order⟩ =>
    printRecursion dialect recursion ++
      "SELECT " ++ joined ", " (printProjections dialect columns) ++
      printSource dialect " FROM " "" source ++
      printSource dialect " LEFT JOIN " " ON TRUE" join ++
      printOptional dialect " WHERE " filter ++
      printClause " ORDER BY " (printEach dialect order)

def printRecursion (dialect : Dialect) : Option Recursion → String
  | none => ""
  | some ⟨name, columns, anchor, step⟩ =>
    printCommon name columns (anchor.print dialect) (step.print dialect)

def printSource (dialect : Dialect) (before after : String) : Option Source → String
  | none => ""
  | some source => before ++ source.print dialect ++ after

def Source.print (dialect : Dialect) : Source → String
  | .table name => quoteName name
  | .function call ordinality label columns =>
    call.print dialect ++ (if ordinality then " WITH ORDINALITY" else "") ++
      printAlias dialect label columns
  | .union queries label columns =>
    "(" ++ joined " UNION ALL " (printSelects dialect queries) ++ ")" ++
      printAlias dialect label columns

def printSelects (dialect : Dialect) : List Select → List String
  | [] => []
  | query :: rest => query.print dialect :: printSelects dialect rest

end

end SheetSql
