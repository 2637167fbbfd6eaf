import SheetSql.Proofs.Lexical.Outside
import SheetSql.Proofs.Scope.Exposed

namespace SheetSql

open Sql

/-! Expressions that differ only in the SQL texts they were made from. -/

/-- Letters, digits and underscores, and not the keyword of a query. -/
def isFunctionName (name : String) : Bool :=
  name.toList.all isWordChar && !occurs "SELECT" name.toList

def isNumberText (digits : String) : Bool :=
  match digits.toList with
  | '-' :: rest => rest.all fun c => c.isDigit || c == '.'
  | cs => cs.all fun c => c.isDigit || c == '.'

/-- How two SQL texts may differ, whether expressions may hold queries, and which ones. -/
structure Likeness where
  texts : String → String → Prop
  queries : Prop
  admits : Select → Prop := fun _ => True
  admits_of_isTidy : ∀ {query}, query.IsTidy → admits query := by intros; trivial
  /-- What a text spells is the same without the brackets around it. -/
  bare_eq : ∀ {sql sql'}, texts sql sql' → Text.bare sql.toList = Text.bare sql'.toList
  /-- The text of a missing argument is like itself. -/
  null : texts "NULL" "NULL"

theorem Likeness.admits_of_not_readsEach (l : Likeness) {query : Select}
    (elsewhere : readsEach query.source query.join = false) : l.admits query := by
  apply l.admits_of_isTidy
  intro reads
  rw [elsewhere] at reads
  cases reads

mutual

/-- The same expression up to the texts of its fragments. -/
inductive Expr.Alike (l : Likeness) : Expr → Expr → Prop
  | null : Expr.Alike l .null .null
  | bool (value : Bool) : Expr.Alike l (.bool value) (.bool value)
  | number {digits : String} (numeral : isNumberText digits = true) :
      Expr.Alike l (.number digits) (.number digits)
  | text (content : String) : Expr.Alike l (.text content) (.text content)
  | typed (type : SqlType) (content : String) :
      Expr.Alike l (.typed type content) (.typed type content)
  | column (qualifier : Option String) (name : String) :
      Expr.Alike l (.column qualifier name) (.column qualifier name)
  | fragment {sql sql' : String} (texts : l.texts sql sql') :
      Expr.Alike l (.fragment sql) (.fragment sql')
  | call {function : String} {args args' : List Expr}
      (name : isFunctionName function = true) (each : AllAlike l args args') :
      Expr.Alike l (.call function args) (.call function args')
  | aggregate {function : String} {args args' order order' : List Expr} (allowed : l.queries)
      (name : isFunctionName function = true) (each : AllAlike l args args')
      (keys : AllAlike l order order') :
      Expr.Alike l (.aggregate function args order) (.aggregate function args' order')
  | window {function : String} {args args' part part' order order' : List Expr}
      (allowed : l.queries) (name : isFunctionName function = true)
      (each : AllAlike l args args') (parts : AllAlike l part part')
      (keys : AllAlike l order order') :
      Expr.Alike l (.window function args part order) (.window function args' part' order')
  | binary {left left' right right' : Expr} (op : BinOp) (first : Expr.Alike l left left')
      (second : Expr.Alike l right right') :
      Expr.Alike l (.binary left op right) (.binary left' op right')
  | chain {items items' : List Expr} (op : BinOp) (each : AllAlike l items items') :
      Expr.Alike l (.chain op items) (.chain op items')
  | unary {operand operand' : Expr} (op : UnOp) (inner : Expr.Alike l operand operand') :
      Expr.Alike l (.unary op operand) (.unary op operand')
  | nullTest {operand operand' : Expr} (negated : Bool)
      (inner : Expr.Alike l operand operand') :
      Expr.Alike l (.nullTest operand negated) (.nullTest operand' negated)
  | member {operand operand' : Expr} {list list' : List Expr} (negated : Bool)
      (inner : Expr.Alike l operand operand') (each : AllAlike l list list') :
      Expr.Alike l (.member operand list negated) (.member operand' list' negated)
  | cast {operand operand' : Expr} (type : SqlType) (inner : Expr.Alike l operand operand') :
      Expr.Alike l (.cast operand type) (.cast operand' type)
  | case {subject subject' otherwise otherwise' : Option Expr} {branches branches' : List Branch}
      (inner : MaybeAlike l subject subject') (each : BranchesAlike l branches branches')
      (last : MaybeAlike l otherwise otherwise') :
      Expr.Alike l (.case subject branches otherwise) (.case subject' branches' otherwise')
  | atTimeZone {operand operand' zone zone' : Expr} (inner : Expr.Alike l operand operand')
      (place : Expr.Alike l zone zone') :
      Expr.Alike l (.atTimeZone operand zone) (.atTimeZone operand' zone')
  | extract {field : String} {operand operand' : Expr} (name : isFunctionName field = true)
      (inner : Expr.Alike l operand operand') :
      Expr.Alike l (.extract field operand) (.extract field operand')
  | subscript {array array' index index' : Expr} (inner : Expr.Alike l array array')
      (position : Expr.Alike l index index') :
      Expr.Alike l (.subscript array index) (.subscript array' index')
  | slice {array array' : Expr} {lower lower' upper upper' : Option Expr}
      (inner : Expr.Alike l array array') (first : MaybeAlike l lower lower')
      (last : MaybeAlike l upper upper') :
      Expr.Alike l (.slice array lower upper) (.slice array' lower' upper')
  | subquery {query query' : Select} (allowed : l.queries) (inner : Select.Alike l query query') :
      Expr.Alike l (.subquery query) (.subquery query')

inductive AllAlike (l : Likeness) : List Expr → List Expr → Prop
  | nil : AllAlike l [] []
  | cons {e e' : Expr} {rest rest' : List Expr} (head : Expr.Alike l e e')
      (tail : AllAlike l rest rest') : AllAlike l (e :: rest) (e' :: rest')

inductive MaybeAlike (l : Likeness) : Option Expr → Option Expr → Prop
  | none : MaybeAlike l none none
  | some {e e' : Expr} (inner : Expr.Alike l e e') : MaybeAlike l (some e) (some e')

inductive BranchesAlike (l : Likeness) : List Branch → List Branch → Prop
  | nil : BranchesAlike l [] []
  | cons {condition condition' value value' : Expr} {rest rest' : List Branch}
      (test : Expr.Alike l condition condition') (result : Expr.Alike l value value')
      (tail : BranchesAlike l rest rest') :
      BranchesAlike l (⟨condition, value⟩ :: rest) (⟨condition', value'⟩ :: rest')

inductive ProjectionsAlike (l : Likeness) : List Projection → List Projection → Prop
  | nil : ProjectionsAlike l [] []
  | cons {value value' : Expr} {rest rest' : List Projection} (label : Option String)
      (head : Expr.Alike l value value') (tail : ProjectionsAlike l rest rest') :
      ProjectionsAlike l (⟨value, label⟩ :: rest) (⟨value', label⟩ :: rest')

inductive Select.Alike (l : Likeness) : Select → Select → Prop
  | mk {recursion recursion' : Option Recursion} {columns columns' : List Projection}
      {source source' join join' : Option Source} {filter filter' : Option Expr}
      {order order' : List Expr}
      (admitted : l.admits ⟨recursion, columns, source, join, filter, order⟩)
      (common : RecursionAlike l recursion recursion')
      (list : ProjectionsAlike l columns columns') (origin : SourceAlike l source source')
      (more : SourceAlike l join join') (test : MaybeAlike l filter filter')
      (keys : AllAlike l order order') :
      Select.Alike l ⟨recursion, columns, source, join, filter, order⟩
        ⟨recursion', columns', source', join', filter', order'⟩

inductive RecursionAlike (l : Likeness) : Option Recursion → Option Recursion → Prop
  | none : RecursionAlike l none none
  | some {anchor anchor' step step' : Select} (name : String) (columns : List String)
      (first : Select.Alike l anchor anchor') (next : Select.Alike l step step') :
      RecursionAlike l (some ⟨name, columns, anchor, step⟩) (some ⟨name, columns, anchor', step'⟩)

inductive SourceAlike (l : Likeness) : Option Source → Option Source → Prop
  | none : SourceAlike l none none
  | table (name : String) : SourceAlike l (some (.table name)) (some (.table name))
  | function {call call' : Expr} (ordinality : Bool) (label : String) (columns : List String)
      (rows : Expr.Alike l call call') :
      SourceAlike l (some (.function call ordinality label columns))
        (some (.function call' ordinality label columns))
  | union {queries queries' : List Select} (label : String) (columns : List String)
      (each : SelectsAlike l queries queries') :
      SourceAlike l (some (.union queries label columns)) (some (.union queries' label columns))

inductive SelectsAlike (l : Likeness) : List Select → List Select → Prop
  | nil : SelectsAlike l [] []
  | cons {query query' : Select} {rest rest' : List Select} (head : Select.Alike l query query')
      (tail : SelectsAlike l rest rest') : SelectsAlike l (query :: rest) (query' :: rest')

end

section

variable {l : Likeness}

@[simp] theorem alike_null : Expr.Alike l .null .null := .null

@[simp] theorem alike_bool (value : Bool) : Expr.Alike l (.bool value) (.bool value) :=
  .bool value

@[simp] theorem alike_number :
    Expr.Alike l (.number digits) (.number digits) ↔ isNumberText digits = true := by
  constructor
  · rintro ⟨⟩
    assumption
  · exact .number

@[simp] theorem alike_text (content : String) : Expr.Alike l (.text content) (.text content) :=
  .text content

@[simp] theorem alike_typed (type : SqlType) (content : String) :
    Expr.Alike l (.typed type content) (.typed type content) :=
  .typed type content

@[simp] theorem alike_column (qualifier : Option String) (name : String) :
    Expr.Alike l (.column qualifier name) (.column qualifier name) :=
  .column qualifier name

@[simp] theorem alike_fragment :
    Expr.Alike l (.fragment sql) (.fragment sql') ↔ l.texts sql sql' := by
  constructor
  · rintro ⟨⟩
    assumption
  · exact .fragment

@[simp] theorem alike_call :
    Expr.Alike l (.call function args) (.call function args') ↔
      isFunctionName function = true ∧ AllAlike l args args' := by
  constructor
  · rintro ⟨⟩
    exact ⟨‹_›, ‹_›⟩
  · rintro ⟨name, each⟩
    exact .call name each

@[simp] theorem alike_aggregate :
    Expr.Alike l (.aggregate function args order) (.aggregate function args' order') ↔
      l.queries ∧ isFunctionName function = true ∧ AllAlike l args args' ∧
        AllAlike l order order' := by
  constructor
  · rintro ⟨⟩
    exact ⟨‹_›, ‹_›, ‹_›, ‹_›⟩
  · rintro ⟨allowed, name, each, keys⟩
    exact .aggregate allowed name each keys

@[simp] theorem alike_window :
    Expr.Alike l (.window function args part order) (.window function args' part' order') ↔
      l.queries ∧ isFunctionName function = true ∧ AllAlike l args args' ∧
        AllAlike l part part' ∧ AllAlike l order order' := by
  constructor
  · rintro ⟨⟩
    exact ⟨‹_›, ‹_›, ‹_›, ‹_›, ‹_›⟩
  · rintro ⟨allowed, name, each, parts, keys⟩
    exact .window allowed name each parts keys

@[simp] theorem alike_binary :
    Expr.Alike l (.binary left op right) (.binary left' op right') ↔
      Expr.Alike l left left' ∧ Expr.Alike l right right' := by
  constructor
  · rintro ⟨⟩
    exact ⟨‹_›, ‹_›⟩
  · rintro ⟨first, second⟩
    exact .binary op first second

@[simp] theorem alike_chain :
    Expr.Alike l (.chain op items) (.chain op items') ↔ AllAlike l items items' := by
  constructor
  · rintro ⟨⟩
    assumption
  · exact .chain op

@[simp] theorem alike_unary :
    Expr.Alike l (.unary op operand) (.unary op operand') ↔ Expr.Alike l operand operand' := by
  constructor
  · rintro ⟨⟩
    assumption
  · exact .unary op

@[simp] theorem alike_nullTest :
    Expr.Alike l (.nullTest operand negated) (.nullTest operand' negated) ↔
      Expr.Alike l operand operand' := by
  constructor
  · rintro ⟨⟩
    assumption
  · exact .nullTest negated

@[simp] theorem alike_member :
    Expr.Alike l (.member operand list negated) (.member operand' list' negated) ↔
      Expr.Alike l operand operand' ∧ AllAlike l list list' := by
  constructor
  · rintro ⟨⟩
    exact ⟨‹_›, ‹_›⟩
  · rintro ⟨inner, each⟩
    exact .member negated inner each

@[simp] theorem alike_cast :
    Expr.Alike l (.cast operand type) (.cast operand' type) ↔ Expr.Alike l operand operand' := by
  constructor
  · rintro ⟨⟩
    assumption
  · exact .cast type

@[simp] theorem alike_case :
    Expr.Alike l (.case subject branches otherwise) (.case subject' branches' otherwise') ↔
      MaybeAlike l subject subject' ∧ BranchesAlike l branches branches' ∧
        MaybeAlike l otherwise otherwise' := by
  constructor
  · rintro ⟨⟩
    exact ⟨‹_›, ‹_›, ‹_›⟩
  · rintro ⟨inner, each, last⟩
    exact .case inner each last

@[simp] theorem alike_atTimeZone :
    Expr.Alike l (.atTimeZone operand zone) (.atTimeZone operand' zone') ↔
      Expr.Alike l operand operand' ∧ Expr.Alike l zone zone' := by
  constructor
  · rintro ⟨⟩
    exact ⟨‹_›, ‹_›⟩
  · rintro ⟨inner, place⟩
    exact .atTimeZone inner place

@[simp] theorem alike_extract :
    Expr.Alike l (.extract field operand) (.extract field operand') ↔
      isFunctionName field = true ∧ Expr.Alike l operand operand' := by
  constructor
  · rintro ⟨⟩
    exact ⟨‹_›, ‹_›⟩
  · rintro ⟨name, inner⟩
    exact .extract name inner

@[simp] theorem alike_subscript :
    Expr.Alike l (.subscript array index) (.subscript array' index') ↔
      Expr.Alike l array array' ∧ Expr.Alike l index index' := by
  constructor
  · rintro ⟨⟩
    exact ⟨‹_›, ‹_›⟩
  · rintro ⟨inner, position⟩
    exact .subscript inner position

@[simp] theorem alike_slice :
    Expr.Alike l (.slice array lower upper) (.slice array' lower' upper') ↔
      Expr.Alike l array array' ∧ MaybeAlike l lower lower' ∧ MaybeAlike l upper upper' := by
  constructor
  · rintro ⟨⟩
    exact ⟨‹_›, ‹_›, ‹_›⟩
  · rintro ⟨inner, first, last⟩
    exact .slice inner first last

@[simp] theorem alike_subquery :
    Expr.Alike l (.subquery query) (.subquery query') ↔
      l.queries ∧ Select.Alike l query query' := by
  constructor
  · rintro ⟨⟩
    exact ⟨‹_›, ‹_›⟩
  · rintro ⟨allowed, inner⟩
    exact .subquery allowed inner

@[simp] theorem allAlike_nil : AllAlike l [] [] := .nil

@[simp] theorem allAlike_cons :
    AllAlike l (e :: rest) (e' :: rest') ↔ Expr.Alike l e e' ∧ AllAlike l rest rest' := by
  constructor
  · rintro ⟨⟩
    exact ⟨‹_›, ‹_›⟩
  · rintro ⟨head, tail⟩
    exact .cons head tail

@[simp] theorem maybeAlike_none : MaybeAlike l none none := .none

@[simp] theorem maybeAlike_some : MaybeAlike l (some e) (some e') ↔ Expr.Alike l e e' := by
  constructor
  · rintro ⟨⟩
    assumption
  · exact .some

@[simp] theorem branchesAlike_nil : BranchesAlike l [] [] := .nil

@[simp] theorem branchesAlike_cons :
    BranchesAlike l (⟨condition, value⟩ :: rest) (⟨condition', value'⟩ :: rest') ↔
      Expr.Alike l condition condition' ∧ Expr.Alike l value value' ∧
        BranchesAlike l rest rest' := by
  constructor
  · rintro ⟨⟩
    exact ⟨‹_›, ‹_›, ‹_›⟩
  · rintro ⟨test, result, tail⟩
    exact .cons test result tail

@[simp] theorem projectionsAlike_nil : ProjectionsAlike l [] [] := .nil

@[simp] theorem projectionsAlike_cons :
    ProjectionsAlike l (⟨value, label⟩ :: rest) (⟨value', label⟩ :: rest') ↔
      Expr.Alike l value value' ∧ ProjectionsAlike l rest rest' := by
  constructor
  · rintro ⟨⟩
    exact ⟨‹_›, ‹_›⟩
  · rintro ⟨head, tail⟩
    exact .cons label head tail

@[simp] theorem select_alike :
    Select.Alike l ⟨recursion, columns, source, join, filter, order⟩
        ⟨recursion', columns', source', join', filter', order'⟩ ↔
      l.admits ⟨recursion, columns, source, join, filter, order⟩ ∧
        RecursionAlike l recursion recursion' ∧ ProjectionsAlike l columns columns' ∧
        SourceAlike l source source' ∧ SourceAlike l join join' ∧
        MaybeAlike l filter filter' ∧ AllAlike l order order' := by
  constructor
  · rintro ⟨⟩
    exact ⟨‹_›, ‹_›, ‹_›, ‹_›, ‹_›, ‹_›, ‹_›⟩
  · rintro ⟨admitted, common, list, origin, more, test, keys⟩
    exact .mk admitted common list origin more test keys

@[simp] theorem recursionAlike_none : RecursionAlike l none none := .none

@[simp] theorem recursionAlike_some :
    RecursionAlike l (some ⟨name, columns, anchor, step⟩)
        (some ⟨name, columns, anchor', step'⟩) ↔
      Select.Alike l anchor anchor' ∧ Select.Alike l step step' := by
  constructor
  · rintro ⟨⟩
    exact ⟨‹_›, ‹_›⟩
  · rintro ⟨first, next⟩
    exact .some name columns first next

@[simp] theorem sourceAlike_none : SourceAlike l none none := .none

@[simp] theorem sourceAlike_table (name : String) :
    SourceAlike l (some (.table name)) (some (.table name)) :=
  .table name

@[simp] theorem sourceAlike_function :
    SourceAlike l (some (.function call ordinality label columns))
        (some (.function call' ordinality label columns)) ↔ Expr.Alike l call call' := by
  constructor
  · rintro ⟨⟩
    assumption
  · exact .function ordinality label columns

@[simp] theorem sourceAlike_union :
    SourceAlike l (some (.union queries label columns))
        (some (.union queries' label columns)) ↔ SelectsAlike l queries queries' := by
  constructor
  · rintro ⟨⟩
    assumption
  · exact .union label columns

@[simp] theorem selectsAlike_nil : SelectsAlike l [] [] := .nil

@[simp] theorem selectsAlike_cons :
    SelectsAlike l (query :: rest) (query' :: rest') ↔
      Select.Alike l query query' ∧ SelectsAlike l rest rest' := by
  constructor
  · rintro ⟨⟩
    exact ⟨‹_›, ‹_›⟩
  · rintro ⟨head, tail⟩
    exact .cons head tail

end

end SheetSql
