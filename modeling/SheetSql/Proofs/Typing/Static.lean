import Mathlib.Data.List.Forall2
import SheetSql.Sql.Build

namespace SheetSql

/-! The types that Postgres gives to expressions before it runs a statement. -/

inductive PgType where
  /-- The type of a constant that takes whatever type its place asks for. -/
  | untyped
  | boolean | integer | numeric | double | text
  | date | timestamp | timestampTz | interval
  | jsonb
  | textArray
  | regtype
  deriving DecidableEq, Repr, Inhabited

namespace PgType

def width? : PgType → Option Nat
  | .integer => some 0
  | .numeric => some 1
  | .double => some 2
  | _ => none

/-- The type of alternatives of two types. Of two types of numbers it is the wider one. -/
def join (a b : PgType) : Option PgType :=
  if a = b ∨ b = .untyped then some a
  else if a = .untyped then some b
  else do if (← a.width?) ≤ (← b.width?) then return b else return a

def joinAll : List PgType → Option PgType
  | [] => some .untyped
  | type :: rest => do join type (← joinAll rest)

def arithmetic (a b : PgType) : Option PgType :=
  if a.width?.isSome ∧ b.width?.isSome then join a b else none

def ofBinary (op : BinOp) (a b : PgType) : Option PgType :=
  match op, a, b with
  | .eq, _, _ | .ne, _, _ | .lt, _, _ | .le, _, _ | .gt, _, _ | .ge, _, _ =>
    (join a b).map fun _ => .boolean
  | .and, .boolean, .boolean | .or, .boolean, .boolean => some .boolean
  | .regexMatch, .text, .text => some .boolean
  | .concat, .text, .text => some .text
  | .jsonGet, .jsonb, .text | .jsonPath, .jsonb, .text => some .text
  | .add, .date, .interval | .sub, .date, .interval => some .timestamp
  | .add, .timestamp, .interval | .sub, .timestamp, .interval => some .timestamp
  | .add, _, _ | .sub, _, _ | .mul, _, _ => arithmetic a b
  | _, _, _ => none

def ofUnary : UnOp → PgType → Option PgType
  | .not, .boolean => some .boolean
  | .neg, type => type.width?.map fun _ => type
  | _, _ => none

def ofFunction (function : String) (args : List PgType) : Option PgType :=
  match function, args with
  | "COALESCE", _ => joinAll args
  | "LOWER", [.text] => some .text
  | "REGEXP_REPLACE", [.text, .text, .text, .text] => some .text
  | "regexp_match", [.text, .text] => some .textArray
  | "to_char", [.timestamp, .text] => some .text
  | "make_date", [.integer, .integer, .integer] => some .date
  | "make_timestamp", [.integer, .integer, .integer, .integer, .integer, .double] =>
    some .timestamp
  | "make_interval", _ => if args.all (· == .integer) then some .interval else none
  | "jsonb_typeof", [.jsonb] => some .text
  | "jsonb_build_array", [_] => some .jsonb
  | "pg_typeof", [_] => some .regtype
  | "SUM", [.double] => some .double
  | "string_agg", [.text, .text] => some .text
  | _, _ => none

def ofRows (function : String) (args : List PgType) (ordinality : Bool) : Option (List PgType) :=
  match function, args with
  | "jsonb_array_elements", [.jsonb] => some (.jsonb :: if ordinality then [.integer] else [])
  | "jsonb_array_elements_text", [.jsonb] => some (.text :: if ordinality then [.integer] else [])
  | _, _ => none

def ofAtTimeZone : PgType → PgType → Option PgType
  | .timestamp, .text => some .timestampTz
  | .timestampTz, .text => some .timestamp
  | _, _ => none

def hasFields : PgType → Bool
  | .date | .timestamp | .timestampTz | .interval => true
  | _ => false

def ofSubscript : PgType → PgType → Option PgType
  | .textArray, .integer => some .text
  | _, _ => none

def ofNumber (digits : String) : PgType :=
  if digits.toList.contains '.' then .numeric else .integer

end PgType

def SqlType.pgType : SqlType → PgType
  | .double => .double
  | .numeric => .numeric
  | .integer => .integer
  | .text => .text
  | .timestamp => .timestamp
  | .timestampTz => .timestampTz
  | .date => .date
  | .jsonb => .jsonb

mutual

/--
The type of an expression, or nothing where the expression has a type error. `types` tells those of
texts from elsewhere and `scope` those of the columns of the query around it.
-/
def Expr.staticType (types : String → PgType) (scope : String → Option PgType) :
    Expr → Option PgType
  | .null => some .untyped
  | .bool _ => some .boolean
  | .number digits => some (.ofNumber digits)
  | .text _ => some .text
  | .typed type _ => some type.pgType
  | .column none name => scope name
  | .fragment sql => some (types sql)
  | .call function args => (staticTypes types scope args).bind (PgType.ofFunction function)
  | .aggregate function args order => do
      let _ ← staticTypes types scope order
      PgType.ofFunction function (← staticTypes types scope args)
  | .binary left op right => do
      PgType.ofBinary op (← left.staticType types scope) (← right.staticType types scope)
  | .unary op operand => (operand.staticType types scope).bind (PgType.ofUnary op)
  | .nullTest operand _ => (operand.staticType types scope).map fun _ => .boolean
  | .member operand list _ => do
      let items ← staticTypes types scope list
      let _ ← PgType.joinAll ((← operand.staticType types scope) :: items)
      return .boolean
  | .cast operand type => (operand.staticType types scope).map fun _ => type.pgType
  | .case none branches otherwise => do
      branchesType types scope .boolean (← optionalType types scope otherwise) branches
  | .case (some subject) branches otherwise => do
      branchesType types scope (← subject.staticType types scope)
        (← optionalType types scope otherwise) branches
  | .atTimeZone operand zone => do
      PgType.ofAtTimeZone (← operand.staticType types scope) (← zone.staticType types scope)
  | .extract _ operand => do
      if (← operand.staticType types scope).hasFields then return .numeric else none
  | .subscript array index => do
      PgType.ofSubscript (← array.staticType types scope) (← index.staticType types scope)
  | .subquery query => query.staticType types scope
  | _ => none

def staticTypes (types : String → PgType) (scope : String → Option PgType) :
    List Expr → Option (List PgType)
  | [] => some []
  | e :: rest => do return (← e.staticType types scope) :: (← staticTypes types scope rest)

def optionalType (types : String → PgType) (scope : String → Option PgType) :
    Option Expr → Option PgType
  | none => some .untyped
  | some e => e.staticType types scope

def branchesType (types : String → PgType) (scope : String → Option PgType)
    (subject default : PgType) : List Branch → Option PgType
  | [] => some default
  | ⟨condition, value⟩ :: rest => do
      let _ ← PgType.join subject (← condition.staticType types scope)
      PgType.join (← value.staticType types scope)
        (← branchesType types scope subject default rest)

def Select.staticType (types : String → PgType) (scope : String → Option PgType) :
    Select → Option PgType
  | ⟨none, [⟨value, _⟩], some (.function (.call function args) ordinality _ columns), none,
      filter, []⟩ => do
      let rows ← PgType.ofRows function (← staticTypes types scope args) ordinality
      let inner := fun name => (columns.zip rows).lookup name
      let _ ← PgType.join .boolean (← optionalType types inner filter)
      value.staticType types inner
  | _ => none

end

section

variable {types : String → PgType} {scope : String → Option PgType}

attribute [local simp] Expr.staticType staticTypes optionalType branchesType Select.staticType

def Expr.HasType (types : String → PgType) (scope : String → Option PgType) (e : Expr)
    (type : PgType) : Prop :=
  e.staticType types scope = some type

theorem staticTypes_of_forall₂ (each : List.Forall₂ (Expr.HasType types scope) args result) :
    staticTypes types scope args = some result := by
  induction each with
  | nil => rw [staticTypes]
  | cons first _ ih =>
    rw [staticTypes, first, ih]
    rfl

theorem branchesType_cons {subject default first rest result : PgType} {condition value : Expr}
    {branches : List Branch} (holds : condition.HasType types scope subject)
    (typed : value.HasType types scope first)
    (others : branchesType types scope subject default branches = some rest)
    (joined : first.join rest = some result) :
    branchesType types scope subject default (⟨condition, value⟩ :: branches) = some result := by
  have same : subject.join subject = some subject := if_pos (.inl rfl)
  rw [branchesType, holds, typed, others]
  change ((subject.join subject).bind fun _ => first.join rest) = _
  rw [same, Option.bind_some, joined]

theorem PgType.joinAll_same (same : ∀ item ∈ items, item = type) :
    joinAll (type :: items) = some type := by
  induction items with
  | nil => exact if_pos (.inr rfl)
  | cons item rest ih =>
    have first : item = type := same item List.mem_cons_self
    have others := ih fun other member => same other (List.mem_cons_of_mem _ member)
    subst first
    rw [joinAll, others]
    exact if_pos (.inl rfl)

namespace Expr.HasType

theorem null : HasType types scope .null .untyped := by rw [HasType, staticType]

theorem bool (value : Bool) : HasType types scope (.bool value) .boolean := by
  rw [HasType, staticType]

theorem number (digits : String) : HasType types scope (.number digits) (.ofNumber digits) := by
  rw [HasType, staticType]

theorem text (content : String) : HasType types scope (.text content) .text := by
  rw [HasType, staticType]

theorem fragment (sql : String) : HasType types scope (.fragment sql) (types sql) := by
  rw [HasType, staticType]

theorem column {name : String} {type : PgType} (known : scope name = some type) :
    HasType types scope (.column none name) type := by
  rw [HasType, staticType, known]

theorem call {function : String} {args : List Expr} {inputs : List PgType} {type : PgType}
    (each : List.Forall₂ (HasType types scope) args inputs)
    (result : PgType.ofFunction function inputs = some type) :
    HasType types scope (.call function args) type := by
  rw [HasType, staticType, staticTypes_of_forall₂ each, Option.bind_some, result]

theorem aggregate {function : String} {args order : List Expr} {inputs keys : List PgType}
    {type : PgType} (each : List.Forall₂ (HasType types scope) args inputs)
    (sorted : List.Forall₂ (HasType types scope) order keys)
    (result : PgType.ofFunction function inputs = some type) :
    HasType types scope (.aggregate function args order) type := by
  rw [HasType, staticType, staticTypes_of_forall₂ each, staticTypes_of_forall₂ sorted]
  exact result

theorem binary (first : HasType types scope left a) (second : HasType types scope right b)
    (result : PgType.ofBinary op a b = some type) :
    HasType types scope (.binary left op right) type := by
  rw [HasType, staticType, first, second]
  exact result

theorem not {operand : Expr} (typed : HasType types scope operand .boolean) :
    HasType types scope operand.not .boolean := by
  rw [HasType, Expr.not, staticType, typed]
  rfl

theorem nullTest (negated : Bool) (typed : HasType types scope operand a) :
    HasType types scope (.nullTest operand negated) .boolean := by
  rw [HasType, staticType, typed, Option.map_some]

theorem member {operand : Expr} {list : List Expr} {a joined : PgType} {items : List PgType}
    (negated : Bool) (typed : HasType types scope operand a)
    (each : List.Forall₂ (HasType types scope) list items)
    (comparable : PgType.joinAll (a :: items) = some joined) :
    HasType types scope (.member operand list negated) .boolean := by
  rw [HasType, staticType, typed, staticTypes_of_forall₂ each]
  change ((PgType.joinAll (a :: items)).bind fun _ => some PgType.boolean) = _
  rw [comparable, Option.bind_some]

theorem memberTexts (words : List String) (negated : Bool)
    (typed : HasType types scope operand .text) :
    HasType types scope (.member operand (words.map .text) negated) .boolean := by
  have each : List.Forall₂ (HasType types scope) (words.map .text) (words.map fun _ => .text) := by
    induction words with
    | nil => exact .nil
    | cons word _ ih => exact .cons (text word) ih
  have same : ∀ item ∈ words.map fun _ => PgType.text, item = .text := by simp
  exact .member negated typed each (PgType.joinAll_same same)

theorem cast (type : SqlType) (typed : HasType types scope operand a) :
    HasType types scope (operand.cast type) type.pgType := by
  rw [HasType, staticType, typed, Option.map_some]

theorem caseWhen {branches : List Branch} {otherwise : Option Expr} {default type : PgType}
    (last : optionalType types scope otherwise = some default)
    (each : branchesType types scope .boolean default branches = some type) :
    HasType types scope (.caseWhen branches otherwise) type := by
  rw [HasType, Expr.caseWhen, staticType, last]
  exact each

theorem caseOf {default : PgType} (typed : HasType types scope subject a)
    (last : optionalType types scope otherwise = some default)
    (each : branchesType types scope a default branches = some type) :
    HasType types scope (.caseOf subject branches otherwise) type := by
  rw [HasType, Expr.caseOf, staticType, typed, last]
  exact each

theorem ite {condition whenTrue whenFalse : Expr} {a b type : PgType}
    (holds : HasType types scope condition .boolean) (first : HasType types scope whenTrue a)
    (second : HasType types scope whenFalse b) (joined : a.join b = some type) :
    HasType types scope (.ite condition whenTrue whenFalse) type :=
  .caseWhen (by rw [optionalType, second]) (branchesType_cons holds first rfl joined)

theorem atTimeZone (first : HasType types scope operand a) (second : HasType types scope zone b)
    (result : PgType.ofAtTimeZone a b = some type) :
    HasType types scope (operand.atTimeZone zone) type := by
  rw [HasType, staticType, first, second]
  exact result

theorem extract (field : String) (typed : HasType types scope operand a)
    (fields : a.hasFields = true) : HasType types scope (.extract field operand) .numeric := by
  rw [HasType, staticType, typed]
  exact if_pos fields

theorem subscript (first : HasType types scope array a) (second : HasType types scope index b)
    (result : PgType.ofSubscript a b = some type) :
    HasType types scope (array.subscript index) type := by
  rw [HasType, staticType, first, second]
  exact result

theorem orElse {default : Expr} (first : HasType types scope operand a)
    (second : HasType types scope default b) (joined : (b.join .untyped).bind a.join = some type) :
    HasType types scope (operand.orElse default) type :=
  .call (.cons first (.cons second .nil)) joined

theorem subquery {columns : List String} (each : List.Forall₂ (HasType types scope) args inputs)
    (source : PgType.ofRows function inputs ordinality = some rows)
    (holds : HasType types (fun name => (columns.zip rows).lookup name) filter .boolean)
    (typed : HasType types (fun name => (columns.zip rows).lookup name) value type) :
    HasType types scope
      (.subquery
        { Select.value value with
          source := some (.function (.call function args) ordinality label columns)
          filter := some filter })
      type := by
  rw [HasType, staticType, Select.value, Select.of, Select.staticType,
    staticTypes_of_forall₂ each]
  change ((PgType.ofRows function inputs ordinality).bind _) = _
  have kept : optionalType types (fun name => (columns.zip rows).lookup name) (some filter) =
      some .boolean := by rw [optionalType, holds]
  rw [source, Option.bind_some]
  change ((optionalType types (fun name => (columns.zip rows).lookup name) (some filter)).bind _)
    = _
  rw [kept]
  exact typed

end Expr.HasType

end

end SheetSql
