import SheetSql.Proofs.Lexical.Render
import SheetSql.Proofs.Meaning.Division

namespace SheetSql

/-! The expressions behind the texts of calls. -/

variable {target : Target} {job : Job} {name : String} {args : List String} {hints : List Hint}

/-- A call with as many arguments as it needs obeys the rule of its target, or may fail. -/
theorem Call.compile_obeys (call : Call) (accepted : call.accepted = true) :
    Agree (fun e _ => e.obeys (.emitted call.target call.stableFunctions) = true) call.MayFail
      call.compile call.compile := by
  have operands : List.Forall₂ (Operand.Alike (.ofTexts (fun _ => True) True trivial))
      call.operands call.operands :=
    operands_self fun _ _ => ⟨rfl, trivial⟩
  have agree := compile_keeps (fits_terms rfl operands fun _ => trivial) (fun _ _ => trivial)
    (needed_le accepted)
  generalize call.compile = result at agree ⊢
  cases agree with
  | ok sound => exact .ok sound.2
  | error allowed => exact .error (allowed accepted)

theorem accepts_of_render (named : Operation.ofName? name = some operation)
    (rendered : target.render job name args hints = .ok sql) :
    Target.check operation args hints = .ok () := by
  rw [Target.render, named] at rendered
  obtain ⟨⟨⟩, checked, _⟩ := bind_eq_ok rendered
  exact checked

theorem exists_compile_of_render (rendered : target.render job name args hints = .ok sql) :
    ∃ call : Call, call.job = job ∧ call.target = target ∧ call.args = args ∧ call.hints = hints ∧
      Operation.ofName? name = some call.operation ∧
      ∃ e, call.compile = .ok e ∧ sql = e.print target.dialect ∧
        e.obeys (.emitted target call.stableFunctions) = true := by
  cases named : Operation.ofName? name with
  | none =>
    rw [Target.render, named] at rendered
    cases rendered
  | some operation =>
    let call : Call := { job, target, operation, args, hints }
    have accepted : call.operation.arity.accepts call.args.length = true :=
      accepts_of_check (accepts_of_render named rendered)
    rw [Target.render, named] at rendered
    obtain ⟨_, _, rest⟩ := bind_eq_ok rendered
    obtain ⟨e, compiled, printed⟩ := bind_eq_ok rest
    have agree := call.compile_obeys accepted
    rw [show call.compile = .ok e from compiled] at agree
    cases printed
    cases agree with
    | ok obeys => exact ⟨call, rfl, rfl, rfl, rfl, rfl, e, compiled, rfl, obeys⟩

theorem Rule.emitted_implies_wellFormed (stable : List String) :
    (Rule.emitted target stable).Implies (.wellFormed target.dialect) where
  node := fun node => (Bool.and_eq_true_iff.1 node).1
  fold := fun fold => by
    rw [show (Rule.wellFormed target.dialect).fold _ = true from fold, Bool.or_true]
  query := id
  source := id

/-- The expression of every call that is accepted is well formed in its dialect. -/
theorem render_wellFormed (target : Target) (job : Job) (name : String) (args : List String)
    (hints : List Hint) (sql : String) (rendered : target.render job name args hints = .ok sql) :
    ∃ operation e, Operation.ofName? name = some operation ∧
      Call.compile { job, target, operation, args, hints } = .ok e ∧
      sql = e.print target.dialect ∧ e.obeys (.wellFormed target.dialect) = true := by
  obtain ⟨call, rfl, rfl, rfl, rfl, named, e, compiled, printed, obeys⟩ :=
    exists_compile_of_render rendered
  exact ⟨call.operation, e, named, compiled, printed,
    e.obeys_mono (Rule.emitted_implies_wellFormed _) obeys⟩

def scoreJob : Job :=
  .ofCatalog (.ofFields [.ofStorage "fld1" "scores" .json, .ofStorage "fld2" "best" .real]) ⟨0, 0⟩

theorem render_wellFormed_scores : ∃ sql,
    Target.render ⟨.sqlite, .select⟩ scoreJob "MAX" ["\"scores\"", "\"best\""] [] = .ok sql ∧
      ∃ operation e, Operation.ofName? "MAX" = some operation ∧
        Call.compile
            { job := scoreJob, target := ⟨.sqlite, .select⟩, operation
              args := ["\"scores\"", "\"best\""], hints := [] } = .ok e ∧
          sql = e.print .sqlite ∧ e.obeys (.wellFormed .sqlite) = true :=
  ⟨_, rfl, render_wellFormed ⟨.sqlite, .select⟩ scoreJob "MAX" ["\"scores\"", "\"best\""] [] _ rfl⟩

end SheetSql
