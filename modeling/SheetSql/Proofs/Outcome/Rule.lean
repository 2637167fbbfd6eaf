import SheetSql.Proofs.Scope.Exposed
import SheetSql.Sql.Literal
import SheetSql.Target

namespace SheetSql

/-! Rules for the nodes of expressions. -/

structure Rule where
  /-- Whether an expression may stand, as far as its outermost node goes. -/
  node : Expr → Bool
  /-- What may also stand as a whole column of a select from `json_each`, where it has all rows. -/
  fold : Expr → Bool := fun _ => false
  query : Select → Bool := fun _ => true
  source : Source → Bool := fun _ => true

mutual

def Expr.partsObey (r : Rule) : Expr → Bool
  | .null | .bool _ | .number _ | .text _ | .typed _ _ | .column _ _ | .fragment _ => true
  | .call _ args => allObey r args
  | .chain _ items => allObey r items
  | .aggregate _ args order => allObey r args && allObey r order
  | .window _ args part order => allObey r args && allObey r part && allObey r order
  | .member operand list _ => r.node operand && operand.partsObey r && allObey r list
  | .unary _ operand | .nullTest operand _ | .cast operand _ | .extract _ operand =>
    r.node operand && operand.partsObey r
  | .binary one _ other | .atTimeZone one other | .subscript one other =>
    r.node one && one.partsObey r && (r.node other && other.partsObey r)
  | .case subject branches otherwise =>
    maybeObeys r subject && branchesObey r branches && maybeObeys r otherwise
  | .slice array lower upper =>
    r.node array && array.partsObey r && maybeObeys r lower && maybeObeys r upper
  | .subquery query => query.obeys r

def allObey (r : Rule) : List Expr → Bool
  | [] => true
  | e :: rest => r.node e && e.partsObey r && allObey r rest

def maybeObeys (r : Rule) : Option Expr → Bool
  | none => true
  | some e => r.node e && e.partsObey r

def branchesObey (r : Rule) : List Branch → Bool
  | [] => true
  | ⟨condition, value⟩ :: rest =>
    r.node condition && condition.partsObey r && (r.node value && value.partsObey r) &&
      branchesObey r rest

def columnsObey (r : Rule) (folded : Bool) : List Projection → Bool
  | [] => true
  | ⟨value, _⟩ :: rest =>
    (r.node value || folded && r.fold value) && value.partsObey r && columnsObey r folded rest

def Select.obeys (r : Rule) : Select → Bool
  | ⟨recursion, columns, source, join, filter, order⟩ =>
    r.query ⟨recursion, columns, source, join, filter, order⟩ && recursionObeys r recursion &&
      columnsObey r (readsEach source join) columns && sourceObeys r source &&
      sourceObeys r join && maybeObeys r filter && allObey r order

def recursionObeys (r : Rule) : Option Recursion → Bool
  | none => true
  | some ⟨_, _, anchor, step⟩ => anchor.obeys r && step.obeys r

def sourceObeys (r : Rule) : Option Source → Bool
  | none => true
  | some (.table name) => r.source (.table name)
  | some (.function call ordinality label columns) =>
    r.source (.function call ordinality label columns) && (r.node call && call.partsObey r)
  | some (.union queries label columns) =>
    r.source (.union queries label columns) && queriesObey r queries

def queriesObey (r : Rule) : List Select → Bool
  | [] => true
  | query :: rest => query.obeys r && queriesObey r rest

end

-- The equations of the walk, with which the lemmas below open.
attribute [local simp] Expr.partsObey allObey maybeObeys branchesObey columnsObey Select.obeys
  recursionObeys sourceObeys queriesObey

def Expr.obeys (r : Rule) (e : Expr) : Bool := r.node e && e.partsObey r

structure Rule.Implies (r s : Rule) : Prop where
  node : ∀ {e : Expr}, r.node e = true → s.node e = true
  fold : ∀ {e : Expr}, r.fold e = true → (s.node e || s.fold e) = true
  query : ∀ {q : Select}, r.query q = true → s.query q = true
  source : ∀ {q : Source}, r.source q = true → s.source q = true

section

variable {r s : Rule}

theorem Rule.Implies.column (weaker : r.Implies s) {folded : Bool} {e : Expr}
    (obeys : (r.node e || folded && r.fold e) = true) :
    (s.node e || folded && s.fold e) = true := by
  rcases Bool.or_eq_true_iff.1 obeys with node | fold
  · rw [weaker.node node, Bool.true_or]
  · obtain ⟨rfl, fold⟩ := Bool.and_eq_true_iff.1 fold
    exact weaker.fold fold

section

variable (weaker : r.Implies s)

include weaker

-- Some need it for what they call alone.
set_option linter.unusedSectionVars false in
mutual

theorem Expr.partsObey_mono : ∀ e : Expr, e.partsObey r = true → e.partsObey s = true
  | .null, _ | .bool _, _ | .number _, _ | .text _, _ | .typed _ _, _ | .column _ _, _
  | .fragment _, _ => by rw [Expr.partsObey]
  | .call _ args, h | .chain _ args, h => by
    rw [Expr.partsObey] at h ⊢
    exact allObey_mono args h
  | .aggregate _ args order, h => by
    simp only [Expr.partsObey, Bool.and_eq_true] at h ⊢
    exact ⟨allObey_mono args h.1, allObey_mono order h.2⟩
  | .window _ args part order, h => by
    simp only [Expr.partsObey, Bool.and_eq_true] at h ⊢
    exact ⟨⟨allObey_mono args h.1.1, allObey_mono part h.1.2⟩,
      allObey_mono order h.2⟩
  | .member operand list _, h => by
    simp only [Expr.partsObey, Bool.and_eq_true] at h ⊢
    exact ⟨⟨weaker.node h.1.1, operand.partsObey_mono h.1.2⟩,
      allObey_mono list h.2⟩
  | .unary _ operand, h | .nullTest operand _, h | .cast operand _, h | .extract _ operand, h => by
    simp only [Expr.partsObey, Bool.and_eq_true] at h ⊢
    exact ⟨weaker.node h.1, operand.partsObey_mono h.2⟩
  | .binary one _ other, h | .atTimeZone one other, h | .subscript one other, h => by
    simp only [Expr.partsObey, Bool.and_eq_true] at h ⊢
    exact ⟨⟨weaker.node h.1.1, one.partsObey_mono h.1.2⟩,
      weaker.node h.2.1, other.partsObey_mono h.2.2⟩
  | .case subject branches otherwise, h => by
    simp only [Expr.partsObey, Bool.and_eq_true] at h ⊢
    exact ⟨⟨maybeObeys_mono subject h.1.1, branchesObey_mono branches h.1.2⟩,
      maybeObeys_mono otherwise h.2⟩
  | .slice array lower upper, h => by
    simp only [Expr.partsObey, Bool.and_eq_true] at h ⊢
    exact ⟨⟨⟨weaker.node h.1.1.1, array.partsObey_mono h.1.1.2⟩,
      maybeObeys_mono lower h.1.2⟩, maybeObeys_mono upper h.2⟩
  | .subquery query, h => by
    rw [Expr.partsObey] at h ⊢
    exact query.obeys_mono h

theorem allObey_mono : ∀ list : List Expr, allObey r list = true → allObey s list = true
  | [], _ => by rw [allObey]
  | e :: rest, h => by
    simp only [allObey, Bool.and_eq_true] at h ⊢
    exact ⟨⟨weaker.node h.1.1, e.partsObey_mono h.1.2⟩, allObey_mono rest h.2⟩

theorem maybeObeys_mono : ∀ e? : Option Expr, maybeObeys r e? = true → maybeObeys s e? = true
  | none, _ => by rw [maybeObeys]
  | some e, h => by
    simp only [maybeObeys, Bool.and_eq_true] at h ⊢
    exact ⟨weaker.node h.1, e.partsObey_mono h.2⟩

theorem branchesObey_mono :
    ∀ branches : List Branch, branchesObey r branches = true → branchesObey s branches = true
  | [], _ => by rw [branchesObey]
  | ⟨condition, value⟩ :: rest, h => by
    simp only [branchesObey, Bool.and_eq_true] at h ⊢
    exact ⟨⟨⟨weaker.node h.1.1.1, condition.partsObey_mono h.1.1.2⟩,
      weaker.node h.1.2.1, value.partsObey_mono h.1.2.2⟩,
      branchesObey_mono rest h.2⟩

theorem columnsObey_mono (folded : Bool) : ∀ columns : List Projection,
    columnsObey r folded columns = true → columnsObey s folded columns = true
  | [], _ => by rw [columnsObey]
  | ⟨value, _⟩ :: rest, h => by
    rw [columnsObey, Bool.and_eq_true, Bool.and_eq_true] at h ⊢
    exact ⟨⟨weaker.column h.1.1, value.partsObey_mono h.1.2⟩,
      columnsObey_mono folded rest h.2⟩

theorem Select.obeys_mono : ∀ query : Select, query.obeys r = true → query.obeys s = true
  | ⟨recursion, columns, source, join, filter, order⟩, h => by
    simp only [Select.obeys, Bool.and_eq_true] at h ⊢
    obtain ⟨⟨⟨⟨⟨⟨whole, common⟩, list⟩, origin⟩, more⟩, test⟩, keys⟩ := h
    exact ⟨⟨⟨⟨⟨⟨weaker.query whole, recursionObeys_mono recursion common⟩,
      columnsObey_mono _ columns list⟩, sourceObeys_mono source origin⟩,
      sourceObeys_mono join more⟩, maybeObeys_mono filter test⟩,
      allObey_mono order keys⟩

theorem recursionObeys_mono : ∀ recursion : Option Recursion,
    recursionObeys r recursion = true → recursionObeys s recursion = true
  | none, _ => by rw [recursionObeys]
  | some ⟨_, _, anchor, step⟩, h => by
    simp only [recursionObeys, Bool.and_eq_true] at h ⊢
    exact ⟨anchor.obeys_mono h.1, step.obeys_mono h.2⟩

theorem sourceObeys_mono :
    ∀ source : Option Source, sourceObeys r source = true → sourceObeys s source = true
  | none, _ => by rw [sourceObeys]
  | some (.table _), h => by
    rw [sourceObeys] at h ⊢
    exact weaker.source h
  | some (.function call _ _ _), h => by
    simp only [sourceObeys, Bool.and_eq_true] at h ⊢
    exact ⟨weaker.source h.1, weaker.node h.2.1, call.partsObey_mono h.2.2⟩
  | some (.union queries _ _), h => by
    simp only [sourceObeys, Bool.and_eq_true] at h ⊢
    exact ⟨weaker.source h.1, queriesObey_mono queries h.2⟩

theorem queriesObey_mono :
    ∀ queries : List Select, queriesObey r queries = true → queriesObey s queries = true
  | [], _ => by rw [queriesObey]
  | query :: rest, h => by
    simp only [queriesObey, Bool.and_eq_true] at h ⊢
    exact ⟨query.obeys_mono h.1, queriesObey_mono rest h.2⟩

end

end

theorem Expr.obeys_mono (weaker : r.Implies s) {e : Expr} (h : e.obeys r = true) :
    e.obeys s = true := by
  rw [Expr.obeys, Bool.and_eq_true] at h ⊢
  exact ⟨weaker.node h.1, e.partsObey_mono weaker h.2⟩

end

/-- The least number of arguments. With one of them SQLite takes `max` and `min` for aggregates. -/
def Dialect.fewest (dialect : Dialect) (function : String) : Nat :=
  let word := Text.lowered function
  if ["coalesce", "greatest", "least"].contains word then 1
  else if dialect == .sqlite && ["max", "min"].contains word then 2
  else 0

def Dialect.hasOperator : Dialect → BinOp → Bool
  | .postgres, .glob => false
  | .sqlite, .regexMatch | .sqlite, .jsonGet | .sqlite, .jsonPath => false
  | _, _ => true

/-- Whether a dialect can take an expression, as far as its outermost node goes. -/
def Dialect.takes (dialect : Dialect) : Expr → Bool
  | .call function args => dialect.fewest function ≤ args.length
  | .binary _ op _ => dialect.hasOperator op
  | .chain op items => 2 ≤ items.length && dialect.hasOperator op
  | .member _ list _ => !list.isEmpty
  | .case _ branches _ => !branches.isEmpty
  | .cast _ type => dialect == .postgres || type != .jsonb
  | .aggregate _ _ _ | .atTimeZone _ _ | .extract _ _ | .subscript _ _ | .slice _ _ _ =>
    dialect == .postgres
  | _ => true

/-- An aggregate of SQLite whose name is that of another function as well. -/
def Expr.isExtremum : Expr → Bool
  | .call function [_] => ["max", "min"].contains (Text.lowered function)
  | _ => false

def Rule.wellFormed (dialect : Dialect) : Rule where
  node := dialect.takes
  fold := fun e => dialect == .sqlite && e.isExtremum
  query := fun query => !query.columns.isEmpty && (dialect == .sqlite || query.recursion.isNone)
  source := fun source =>
    match source with
    | .table _ => true
    | .function _ ordinality _ _ => dialect == .postgres || !ordinality
    | .union queries _ _ => !queries.isEmpty

/-- The constant that SQLite reads as the present, as a text or as a fragment that spells it. -/
def Expr.isNow : Expr → Bool
  | .text content => Text.lowered content == "now"
  | .fragment sql => (Sql.textLiteral? sql).any fun content => Text.lowered content == "now"
  | _ => false

/-- The functions of SQLite whose first argument is a time, or the present if it is missing. -/
def dateFunctions : List String := ["date", "time", "datetime", "julianday", "unixepoch"]

def Expr.readsClock : Expr → Bool
  | .call function args =>
    let word := Text.lowered function
    word == "now" || (word == "strftime" && args[1]?.all Expr.isNow) ||
      (dateFunctions.contains word && args[0]?.all Expr.isNow)
  | _ => false

/-- Expressions that never look at the clock of the engine. -/
def Rule.frozen : Rule where
  node := fun e => !e.readsClock

/-- The functions that the catalog of Postgres has as immutable, whatever their arguments are. -/
def immutableFunctions : List String :=
  ["ABS", "CEIL", "COALESCE", "EXP", "FLOOR", "GREATEST", "LEAST", "LENGTH", "LN", "LOWER", "LPAD",
   "MOD", "NULLIF", "POWER", "REGEXP_REPLACE", "REPEAT", "REPLACE", "RIGHT", "ROUND", "SIGN",
   "SQRT", "STRPOS", "SUBSTR", "TRIM", "TRUNC", "UPPER", "array_length", "jsonb_array_length",
   "jsonb_typeof", "make_date", "make_interval", "make_timestamp", "regexp_match",
   "string_to_array"]

def Expr.isAtTimeZone : Expr → Bool
  | .atTimeZone _ _ => true
  | _ => false

/-- An immutable function of Postgres; `date_trunc` is one on time stamps without a zone. -/
def isImmutable (function : String) (args : List Expr) : Bool :=
  immutableFunctions.contains function ||
    (function == "date_trunc" && args[1]?.any Expr.isAtTimeZone)

/-- Expressions of Postgres that call immutable functions, and perhaps some that are only stable. -/
def Rule.immutable (stable : List String) : Rule where
  node := fun e =>
    match e with
    | .call function args => isImmutable function args || stable.contains function
    | .aggregate _ _ _ | .window _ _ _ _ => false
    | _ => true

/-- The rules for a target together. A select may look at the clock and call what it likes. -/
def Rule.emitted (target : Target) (stable : List String) : Rule :=
  { Rule.wellFormed target.dialect with
    node := fun e =>
      target.dialect.takes e &&
        (target.placement == .select ||
          !e.readsClock && (target.dialect == .sqlite || (Rule.immutable stable).node e)) }

end SheetSql
