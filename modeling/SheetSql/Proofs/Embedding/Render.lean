import SheetSql.Proofs.Outcome.Compile
import SheetSql.Proofs.Embedding.Bracket
import SheetSql.Render

namespace SheetSql

/-! Arguments that were printed as operands before. -/

open Text Sql

def Likeness.PrintsAlike (l : Likeness) : Prop :=
  ∀ {sql sql'}, l.texts sql sql' → printFragment sql = printFragment sql'

section

variable {l : Likeness}

theorem AllAlike.isEmpty_eq (each : AllAlike l list list') : list.isEmpty = list'.isEmpty := by
  cases each <;> rfl

section

variable (same : l.PrintsAlike) (dialect : Dialect)

include same

-- Some need it for what they call alone.
set_option linter.unusedSectionVars false in
mutual

theorem Expr.Alike.print_eq : Expr.Alike l e e' → e.print dialect = e'.print dialect
  | .null | .bool _ | .number _ | .text _ | .typed _ _ | .column _ _ => rfl
  | .fragment texts => by rw [Expr.print, Expr.print, same texts]
  | .call _ each | .chain _ each => by
    rw [Expr.print, Expr.print, each.printEach_eq]
  | .aggregate _ _ each keys => by
    rw [Expr.print, Expr.print, each.printEach_eq, keys.printEach_eq]
  | .window _ _ each parts keys => by
    rw [Expr.print, Expr.print, each.printEach_eq,
      parts.printEach_eq, keys.printEach_eq, parts.isEmpty_eq,
      keys.isEmpty_eq]
  | .binary _ one other | .atTimeZone one other | .subscript one other => by
    rw [Expr.print, Expr.print, one.print_eq, other.print_eq]
  | .unary _ inner | .nullTest _ inner | .cast _ inner | .extract _ inner => by
    rw [Expr.print, Expr.print, inner.print_eq]
  | .member _ inner each => by
    rw [Expr.print, Expr.print, inner.print_eq, each.printEach_eq]
  | .case subject each last => by
    rw [Expr.print, Expr.print, subject.printOptional_eq,
      each.printBranches_eq, last.printOptional_eq]
  | .slice inner first last => by
    rw [Expr.print, Expr.print, inner.print_eq,
      first.printOptional_eq, last.printOptional_eq]
  | .subquery _ inner => by rw [Expr.print, Expr.print, inner.print_eq]

theorem AllAlike.printEach_eq :
    AllAlike l list list' → printEach dialect list = printEach dialect list'
  | .nil => rfl
  | .cons head tail => by
    rw [printEach, printEach, head.print_eq, tail.printEach_eq]

theorem MaybeAlike.printOptional_eq :
    MaybeAlike l e? e?' → printOptional dialect word e? = printOptional dialect word e?'
  | .none => rfl
  | .some inner => by rw [printOptional, printOptional, inner.print_eq]

theorem BranchesAlike.printBranches_eq :
    BranchesAlike l branches branches' →
      printBranches dialect branches = printBranches dialect branches'
  | .nil => rfl
  | .cons test result tail => by
    rw [printBranches, printBranches, test.print_eq, result.print_eq,
      tail.printBranches_eq]

theorem ProjectionsAlike.printProjections_eq :
    ProjectionsAlike l list list' → printProjections dialect list = printProjections dialect list'
  | .nil => rfl
  | .cons label head tail => by
    rw [printProjections, printProjections, head.print_eq,
      tail.printProjections_eq]

theorem Select.Alike.print_eq :
    Select.Alike l query query' → query.print dialect = query'.print dialect
  | .mk _ common list origin more test keys => by
    rw [Select.print, Select.print, common.printRecursion_eq,
      list.printProjections_eq, origin.printSource_eq,
      more.printSource_eq, test.printOptional_eq,
      keys.printEach_eq]

theorem RecursionAlike.printRecursion_eq :
    RecursionAlike l recursion recursion' →
      printRecursion dialect recursion = printRecursion dialect recursion'
  | .none => rfl
  | .some name columns first next => by
    rw [printRecursion, printRecursion, first.print_eq, next.print_eq]

theorem SourceAlike.printSource_eq :
    SourceAlike l source source' →
      printSource dialect before after source = printSource dialect before after source'
  | .none | .table _ => rfl
  | .function ordinality label columns rows => by
    rw [printSource, printSource, Source.print, Source.print, rows.print_eq]
  | .union label columns each => by
    rw [printSource, printSource, Source.print, Source.print, each.printSelects_eq]

theorem SelectsAlike.printSelects_eq :
    SelectsAlike l queries queries' →
      printSelects dialect queries = printSelects dialect queries'
  | .nil => rfl
  | .cons head tail => by
    rw [printSelects, printSelects, head.print_eq, tail.printSelects_eq]

end

end

end

def Likeness.operands : Likeness where
  texts sql sql' := printFragment sql = printFragment sql' ∧ bare sql.toList = bare sql'.toList
  queries := True
  bare_eq := And.right
  null := ⟨rfl, rfl⟩

theorem check_of_filled {args args' : List String} (count : args.length = args'.length)
    (filled : ∀ arg ∈ args, trim arg.toList ≠ []) (filled' : ∀ arg ∈ args', trim arg.toList ≠ []) :
    Target.check operation args hints = Target.check operation args' hints := by
  have unblank : ∀ {args : List String}, (∀ arg ∈ args, trim arg.toList ≠ []) →
      args.findIdx? (fun sql => (trim sql.toList).isEmpty) = none := by
    intro args filled
    rw [List.findIdx?_eq_none_iff]
    intro arg member
    simpa using filled arg member
  rw [Target.check, Target.check, unblank filled, unblank filled', count]

/-- Arguments that are alike and pass the same checks have the same text or the same error. -/
theorem render_eq_of_alike (checks : ∀ operation,
      Target.check operation args hints = Target.check operation args' hints')
    (operands : ∀ operation, List.Forall₂ (Operand.Alike .operands)
      (Call.operands { job, target, operation, args, hints })
      (Call.operands { job, target, operation, args := args', hints := hints' })) :
    target.render job name args hints = target.render job name args' hints' := by
  unfold Target.render
  split
  · next operation _ =>
      have agree : Agree (Expr.Alike .operands) (fun _ => True)
          (Call.compile { job, target, operation, args, hints })
          (Call.compile { job, target, operation, args := args', hints := hints' }) :=
        Call.compile_alike rfl (operands operation) (fun _ => trivial) fun _ _ => trivial
      rw [Target.renderOperation, Target.renderOperation, checks]
      dsimp only
      generalize Call.compile { job, target, operation, args, hints } = one at agree ⊢
      generalize Call.compile { job, target, operation, args := args', hints := hints' } = other
        at agree ⊢
      cases agree with
      | ok related =>
        exact congrArg (fun sql : String => do Target.check operation args' hints'; return sql)
          (related.print_eq And.left target.dialect)
      | error fault => rfl
  · rfl

theorem render_eq_of_texts {target : Target}
    (texts : List.Forall₂ Likeness.operands.texts args args')
    (filled : ∀ arg ∈ args, trim arg.toList ≠ []) (filled' : ∀ arg ∈ args', trim arg.toList ≠ []) :
    target.render job name args hints = target.render job name args' hints := by
  refine render_eq_of_alike (fun _ => check_of_filled texts.length_eq filled filled') ?_
  exact fun operation => Call.operands_alike rfl rfl texts

/--
An argument that is neither blank nor unbalanced can be printed as an operand first: every call
has the same text or the same error with it.
-/
theorem render_printed_args (target : Target) (job : Job) (name : String) (args : List String)
    (hints : List Hint) (filled : ∀ arg ∈ args, trim arg.toList ≠ [])
    (balanced : ∀ arg ∈ args, isBalanced arg = true) :
    target.render job name (args.map fun arg => (Expr.fragment arg).print target.dialect) hints =
      target.render job name args hints := by
  refine render_eq_of_texts ?_ ?_ filled
  · rw [List.forall₂_map_left_iff, List.forall₂_same]
    intro arg member
    rw [Expr.print]
    exact ⟨printFragment_printFragment (balanced arg member),
      bare_printFragment (balanced arg member)⟩
  · intro printed among
    obtain ⟨arg, member, rfl⟩ := List.mem_map.1 among
    rw [Expr.print]
    exact trim_printFragment_ne (filled arg member)

def looseArgs : List String := [" 'it''s (' || x", "(( 1 ) )"]

theorem render_printed_args_loose :
    (∀ arg ∈ looseArgs, trim arg.toList ≠ []) ∧ (∀ arg ∈ looseArgs, isBalanced arg = true) ∧
      Target.render ⟨.postgres, .select⟩ default "concatenate"
          ["('it''s (' || x)", "(( 1 ) )"] [] =
        Target.render ⟨.postgres, .select⟩ default "concatenate" looseArgs [] := by
  have filled : ∀ arg ∈ looseArgs, trim arg.toList ≠ [] := by decide
  have balanced : ∀ arg ∈ looseArgs, isBalanced arg = true := by decide
  have printed : looseArgs.map (fun arg => (Expr.fragment arg).print .postgres) =
      ["('it''s (' || x)", "(( 1 ) )"] := by rfl
  have same := render_printed_args ⟨.postgres, .select⟩ default "concatenate" looseArgs []
    filled balanced
  rw [printed] at same
  exact ⟨filled, balanced, same⟩

end SheetSql
