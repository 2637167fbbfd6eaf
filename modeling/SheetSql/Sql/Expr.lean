namespace SheetSql

/-!
SQL expressions as trees. Every expression is built as a tree; `Expr.print` is the only place
that turns one into text.
-/

inductive BinOp where
  | add | sub | mul | div | mod
  | eq | ne | lt | le | gt | ge
  | and | or | concat
  | regexMatch | glob
  /-- The text of a member of a JSON value, `->>`. -/
  | jsonGet
  /-- The text at a path of a JSON value, `#>>`. -/
  | jsonPath
  deriving DecidableEq, Repr, Inhabited

inductive UnOp where
  | not | neg
  deriving DecidableEq, Repr, Inhabited

/-- Types of casts and typed literals; each dialect has its own spelling. -/
inductive SqlType where
  | double | numeric | integer | text | timestamp | timestampTz | date | jsonb
  deriving DecidableEq, Repr, Inhabited

mutual

inductive Expr where
  | null
  | bool (value : Bool)
  | number (digits : String)
  /-- A text constant, given by its content. -/
  | text (content : String)
  /-- A constant of a type, read by the engine when it parses the statement. -/
  | typed (type : SqlType) (content : String)
  | column (qualifier : Option String) (name : String)
  /-- SQL text from elsewhere, which stays as it is. -/
  | fragment (sql : String)
  | call (function : String) (args : List Expr)
  | aggregate (function : String) (args order : List Expr)
  | window (function : String) (args part order : List Expr)
  | binary (left : Expr) (op : BinOp) (right : Expr)
  /-- One operator between each two of several operands. -/
  | chain (op : BinOp) (items : List Expr)
  | unary (op : UnOp) (operand : Expr)
  /-- Whether an operand is null, or is not. -/
  | nullTest (operand : Expr) (negated : Bool)
  /-- Whether an operand is in a list, or is not. -/
  | member (operand : Expr) (list : List Expr) (negated : Bool)
  | cast (operand : Expr) (type : SqlType)
  | case (subject : Option Expr) (branches : List Branch) (otherwise : Option Expr)
  | atTimeZone (operand zone : Expr)
  | extract (field : String) (operand : Expr)
  | subscript (array index : Expr)
  | slice (array : Expr) (lower upper : Option Expr)
  | subquery (query : Select)

structure Branch where
  condition : Expr
  value : Expr

structure Projection where
  value : Expr
  label : Option String

structure Select where
  recursion : Option Recursion
  columns : List Projection
  source : Option Source
  join : Option Source
  filter : Option Expr
  order : List Expr

structure Recursion where
  name : String
  columns : List String
  anchor : Select
  step : Select

inductive Source where
  | table (name : String)
  | function (call : Expr) (ordinality : Bool) (label : String) (columns : List String)
  | union (queries : List Select) (label : String) (columns : List String)

end

instance : Inhabited Expr := ⟨.null⟩

end SheetSql
