import SheetSql.Proofs.Lexical.Render

namespace SheetSql

/-! Queries inside expressions. -/

open Sql

mutual

/-- Whether there is a query, an aggregate or a window anywhere in an expression. -/
def Expr.holdsQuery : Expr → Bool
  | .null | .bool _ | .number _ | .text _ | .typed _ _ | .column _ _ | .fragment _ => false
  | .aggregate _ _ _ | .window _ _ _ _ | .subquery _ => true
  | .call _ args => anyHoldsQuery args
  | .chain _ items => anyHoldsQuery items
  | .member operand list _ => operand.holdsQuery || anyHoldsQuery list
  | .unary _ operand | .nullTest operand _ | .cast operand _ | .extract _ operand =>
    operand.holdsQuery
  | .binary one _ other | .atTimeZone one other | .subscript one other =>
    one.holdsQuery || other.holdsQuery
  | .case subject branches otherwise =>
    optionHoldsQuery subject || branchHoldsQuery branches || optionHoldsQuery otherwise
  | .slice array lower upper =>
    array.holdsQuery || optionHoldsQuery lower || optionHoldsQuery upper

def anyHoldsQuery : List Expr → Bool
  | [] => false
  | e :: rest => e.holdsQuery || anyHoldsQuery rest

def optionHoldsQuery : Option Expr → Bool
  | none => false
  | some e => e.holdsQuery

def branchHoldsQuery : List Branch → Bool
  | [] => false
  | ⟨condition, value⟩ :: rest =>
    condition.holdsQuery || value.holdsQuery || branchHoldsQuery rest

end

section

variable {l : Likeness} (none : ¬l.queries)

include none

-- Some need it for what they call alone.
set_option linter.unusedSectionVars false in
mutual

theorem Expr.Alike.holdsQuery_eq_false : Expr.Alike l e e' → e.holdsQuery = false
  | .null | .bool _ | .number _ | .text _ | .typed _ _ | .column _ _ | .fragment _ => by
    rw [Expr.holdsQuery]
  | .aggregate allowed _ _ _ | .window allowed _ _ _ _ | .subquery allowed _ =>
    absurd allowed none
  | .call _ each | .chain _ each => by
    rw [Expr.holdsQuery, each.anyHoldsQuery_eq_false]
  | .member _ inner each => by
    rw [Expr.holdsQuery, inner.holdsQuery_eq_false, each.anyHoldsQuery_eq_false]
    rfl
  | .unary _ inner | .nullTest _ inner | .cast _ inner | .extract _ inner => by
    rw [Expr.holdsQuery, inner.holdsQuery_eq_false]
  | .binary _ one other | .atTimeZone one other | .subscript one other => by
    rw [Expr.holdsQuery, one.holdsQuery_eq_false, other.holdsQuery_eq_false]
    rfl
  | .case inner each last => by
    rw [Expr.holdsQuery, inner.optionHoldsQuery_eq_false,
      each.branchHoldsQuery_eq_false, last.optionHoldsQuery_eq_false]
    rfl
  | .slice inner first last => by
    rw [Expr.holdsQuery, inner.holdsQuery_eq_false, first.optionHoldsQuery_eq_false,
      last.optionHoldsQuery_eq_false]
    rfl

theorem AllAlike.anyHoldsQuery_eq_false : AllAlike l list list' → anyHoldsQuery list = false
  | .nil => by rw [anyHoldsQuery]
  | .cons head tail => by
    rw [anyHoldsQuery, head.holdsQuery_eq_false, tail.anyHoldsQuery_eq_false]
    rfl

theorem MaybeAlike.optionHoldsQuery_eq_false : MaybeAlike l e? e?' → optionHoldsQuery e? = false
  | .none => by rw [optionHoldsQuery]
  | .some inner => by rw [optionHoldsQuery, inner.holdsQuery_eq_false]

theorem BranchesAlike.branchHoldsQuery_eq_false :
    BranchesAlike l branches branches' → branchHoldsQuery branches = false
  | .nil => by rw [branchHoldsQuery]
  | .cons test result tail => by
    rw [branchHoldsQuery, test.holdsQuery_eq_false, result.holdsQuery_eq_false,
      tail.branchHoldsQuery_eq_false]
    rfl

end

end

/--
A call for a generated column either fails or has an expression without queries, whatever its
arguments are. In the text of a formula the word that starts a query stands in quotes only.
-/
theorem holdsQuery_eq_false_of_generated (target : Target)
    (generated : target.placement = .generated) (job : Job) :
    (∀ (operation : Operation) (args : List String) (hints : List Hint) (e : Expr),
      Call.compile { job, target, operation, args, hints } = .ok e → e.holdsQuery = false) ∧
    ∀ (formula : Formula) (sql : String), formula.render target job = .ok sql →
      ∃ found, outside? isSqlQuote none sql.toList = some found ∧
        occurs "SELECT" found = false := by
  refine ⟨fun operation args hints e found => ?_, fun formula sql found => ?_⟩
  · have alike : Expr.Alike (.ofTexts (fun _ => True) False trivial) e e :=
      Call.compile_self (fun _ _ => trivial)
        (fun selected => by cases generated.symm.trans selected) found
    exact alike.holdsQuery_eq_false id
  · have passes : Passes false sql 0 0 :=
      formula_passes (fun selected => by cases generated.symm.trans selected) found
    obtain ⟨found, closed, -, free⟩ := passes
    exact ⟨found, closed, free "SELECT" (by decide)⟩

def jsonCall (placement : Placement) : Call :=
  { job := .ofCatalog (.ofFields [.ofStorage "f" "SELECT" .json]) ⟨0, 0⟩
    target := ⟨.sqlite, placement⟩
    operation := .textAll
    args := ["\"SELECT\""]
    hints := [] }

-- In a select the call joins the elements of the values by a query.
example : (jsonCall .select).compile.toOption.map Expr.holdsQuery = some true := by rfl

set_option maxRecDepth 10000 in
theorem holdsQuery_eq_false_of_generated_json :
    ((jsonCall .generated).compile = .ok (Coerce.jsonText .sqlite (.fragment "\"SELECT\"")) ∧
      (Coerce.jsonText .sqlite (.fragment "\"SELECT\"")).holdsQuery = false) ∧
    Formula.render ⟨.sqlite, .generated⟩ (jsonCall .generated).job
        (.call "concatenate" [.leaf (.text "SELECT 'a'"), .leaf .null] []) =
      .ok "(COALESCE('SELECT ''a''', '') || '')" ∧
    ∃ found, outside? isSqlQuote none "(COALESCE('SELECT ''a''', '') || '')".toList =
        some found ∧ occurs "SELECT" found = false := by
  have text : (jsonCall .generated).compile =
      .ok (Coerce.jsonText .sqlite (.fragment "\"SELECT\"")) := by rfl
  have both : Formula.render ⟨.sqlite, .generated⟩ (jsonCall .generated).job
        (.call "concatenate" [.leaf (.text "SELECT 'a'"), .leaf .null] []) =
      .ok "(COALESCE('SELECT ''a''', '') || '')" := by rfl
  have all := holdsQuery_eq_false_of_generated ⟨.sqlite, .generated⟩ rfl (jsonCall .generated).job
  exact ⟨⟨text, all.1 _ _ _ _ text⟩, both, all.2 _ _ both⟩

end SheetSql
