import SheetSql.Sql.Build

namespace SheetSql

/-! Where a foreign text stands among the columns of `json_each`. -/

def eachColumns : List String :=
  ["key", "value", "type", "atom", "id", "parent", "fullkey", "path"]

def Source.isEach : Source → Bool
  | .function (.call name _) _ _ _ => name == "json_each"
  | _ => false

/-- Whether a query reads rows of `json_each`, alone or beside another source. -/
def readsEach (source join : Option Source) : Bool :=
  source.any Source.isEach || join.any Source.isEach

mutual

/--
Whether a fragment of a class stands where the columns of `json_each` are in scope; `inside` tells
that the whole expression does.
-/
def Expr.exposes (p : String → Bool) (inside : Bool) : Expr → Bool
  | .null | .bool _ | .number _ | .text _ | .typed _ _ | .column _ _ => false
  | .fragment sql => inside && p sql
  | .call _ args => anyExposes p inside args
  | .chain _ items => anyExposes p inside items
  | .aggregate _ args order => anyExposes p inside args || anyExposes p inside order
  | .window _ args part order =>
    anyExposes p inside args || anyExposes p inside part || anyExposes p inside order
  | .member operand list _ => operand.exposes p inside || anyExposes p inside list
  | .unary _ operand | .nullTest operand _ | .cast operand _ | .extract _ operand =>
    operand.exposes p inside
  | .binary one _ other | .atTimeZone one other | .subscript one other =>
    one.exposes p inside || other.exposes p inside
  | .case subject branches otherwise =>
    optionExposes p inside subject || branchesExpose p inside branches ||
      optionExposes p inside otherwise
  | .slice array lower upper =>
    array.exposes p inside || optionExposes p inside lower || optionExposes p inside upper
  | .subquery query => query.exposes p inside

def anyExposes (p : String → Bool) (inside : Bool) : List Expr → Bool
  | [] => false
  | e :: rest => e.exposes p inside || anyExposes p inside rest

def optionExposes (p : String → Bool) (inside : Bool) : Option Expr → Bool
  | none => false
  | some e => e.exposes p inside

def branchesExpose (p : String → Bool) (inside : Bool) : List Branch → Bool
  | [] => false
  | ⟨condition, value⟩ :: rest =>
    condition.exposes p inside || value.exposes p inside || branchesExpose p inside rest

def columnsExpose (p : String → Bool) (inside : Bool) : List Projection → Bool
  | [] => false
  | ⟨value, _⟩ :: rest => value.exposes p inside || columnsExpose p inside rest

def Select.exposes (p : String → Bool) (inside : Bool) : Select → Bool
  | ⟨recursion, columns, source, join, filter, order⟩ =>
    recursionExposes p inside recursion || sourceExposes p inside source ||
      sourceExposes p inside join ||
      columnsExpose p (inside || readsEach source join) columns ||
      optionExposes p (inside || readsEach source join) filter ||
      anyExposes p (inside || readsEach source join) order

def recursionExposes (p : String → Bool) (inside : Bool) : Option Recursion → Bool
  | none => false
  | some ⟨_, _, anchor, step⟩ => anchor.exposes p inside || step.exposes p inside

def sourceExposes (p : String → Bool) (inside : Bool) : Option Source → Bool
  | none | some (.table _) => false
  | some (.function call _ _ _) => call.exposes p inside
  | some (.union queries _ _) => queriesExpose p inside queries

def queriesExpose (p : String → Bool) (inside : Bool) : List Select → Bool
  | [] => false
  | query :: rest => query.exposes p inside || queriesExpose p inside rest

end

/-- A query that has no fragments where it has the columns of `json_each` in scope. -/
def Select.IsTidy (query : Select) : Prop :=
  readsEach query.source query.join = true → ∀ p,
    columnsExpose p true query.columns = false ∧ optionExposes p true query.filter = false ∧
      anyExposes p true query.order = false

end SheetSql
