import SheetSql.Proofs.Outcome.WellFormed

namespace SheetSql

/-! The reasons for which a call fails that has passed the checks before compilation. -/

/-- Whether an operation with so many arguments has one that has to be a constant. -/
def Operation.readsLiteral : Operation → Nat → Bool
  | .regexpReplace, _ | .dateAdd, _ => true
  | .weekday, n | .fromNow, n | .toNow, n | .datetimeFormat, n | .datetimeParse, n => n == 2
  | .datetimeDiff, n | .workday, n | .isSame, n | .isAfter, n | .isBefore, n => n == 3
  | .substitute, n => n == 4
  | _, _ => false

/-- The constant is the last argument, except for a pattern, which is always there. -/
theorem readsLiteral_of_literalAt? {operation : Operation}
    (accepted : operation.arity.accepts n = true) (literal : operation.literalAt? = some i)
    (given : i < n) : operation.readsLiteral n = true := by
  cases operation with
  | regexpReplace | dateAdd => rfl
  | weekday | fromNow | toNow | datetimeFormat | datetimeParse | datetimeDiff | workday | isSame
  | isAfter | isBefore | substitute =>
    cases literal
    simp only [Operation.arity, Arity.accepts, Arity.between, Option.all_some, Bool.and_eq_true,
      decide_eq_true_eq] at accepted
    exact beq_iff_eq.2 (by omega)
  | _ => cases literal

namespace Call

variable {call : Call}

theorem compile_eq_unsupported (sqlite : call.target.dialect = .sqlite)
    (lacking : call.operation = .regexpReplace ∨ call.operation = .encodeUrl) :
    call.compile = .error call.unsupported := by
  have dialect : call.dialect = .sqlite := sqlite
  unfold compile own? shared
  rcases lacking with named | named <;> rw [named, dialect]

end Call

/--
A call that has passed the checks fails for few reasons. SQLite lacks two functions, and these are
the only calls that it does not support; queries are missing in generated columns only; and what
has to be a constant, a pattern or a format belongs to the operations that read one.
-/
theorem render_error_cases (target : Target) (job : Job) (name : String) (operation : Operation)
    (args : List String) (hints : List Hint) (named : Operation.ofName? name = some operation)
    (checked : Target.check operation args hints = .ok ()) :
    ((∃ name' target', target.render job name args hints = .error (.unsupported name' target')) ↔
      target.dialect = .sqlite ∧ (operation = .regexpReplace ∨ operation = .encodeUrl)) ∧
    (∀ operation', target.render job name args hints = .error (.needsSubquery operation') →
      operation' = operation ∧ target.placement = .generated ∧
        ((∀ operand ∈ args.mapIdx fun i sql => Operand.classify job sql hints[i]?,
            operand.kind ≠ .json) →
          operation.needsQuery args.length = true)) ∧
    (∀ operation' i fault,
      target.render job name args hints = .error (.argument operation' i fault) →
        operation' = operation ∧ operation.readsLiteral args.length = true) ∧
    (∀ format fault, target.render job name args hints = .error (.invalidFormat format fault) →
      operation.readsFormat args.length = true) ∧
    (∀ operation' n, target.render job name args hints ≠ .error (.argumentCount operation' n)) ∧
    (∀ operation' n m, target.render job name args hints ≠ .error (.hintCount operation' n m)) ∧
    (∀ zone, target.render job name args hints ≠ .error (.unknownZone zone)) ∧
    ∀ id, target.render job name args hints ≠ .error (.unknownField id) := by
  let call : Call := { job, target, operation, args, hints }
  have accepted : call.operation.arity.accepts call.args.length = true := accepts_of_check checked
  have shape : target.render job name args hints =
      (do return (← call.compile).print target.dialect) := by
    rw [Target.render, named]
    dsimp only
    rw [Target.renderOperation, checked]
    rfl
  have causes : ∀ {error}, target.render job name args hints = .error error →
      call.MayFail error := by
    intro error failed
    rw [shape] at failed
    have agree := call.compile_obeys accepted
    cases compiled : call.compile with
    | ok e =>
      rw [compiled] at failed
      cases failed
    | error first =>
      rw [compiled] at failed agree
      cases failed
      cases agree with
      | error allowed => exact allowed
  refine ⟨⟨?_, ?_⟩, ?_, ?_, ?_, ?_, ?_, ?_, ?_⟩
  · rintro ⟨name', target', failed⟩
    obtain ⟨-, -, sqlite, lacking⟩ := causes failed
    exact ⟨sqlite, lacking⟩
  · rintro ⟨sqlite, lacking⟩
    have failed : call.compile = .error call.unsupported :=
      Call.compile_eq_unsupported sqlite lacking
    refine ⟨operation.name, target, ?_⟩
    rw [shape, failed]
    rfl
  · intro operation' failed
    obtain ⟨rfl, generated, needs | ⟨operand, member, json⟩⟩ := causes failed
    · exact ⟨rfl, generated, fun _ => needs⟩
    · exact ⟨rfl, generated, fun single => absurd json (single operand member)⟩
  · intro operation' i fault failed
    obtain ⟨rfl, literal, given⟩ := causes failed
    exact ⟨rfl, readsLiteral_of_literalAt? accepted literal given⟩
  · intro format fault failed
    exact causes failed
  · exact fun _ _ failed => causes failed
  · exact fun _ _ _ failed => causes failed
  · exact fun _ failed => causes failed
  · exact fun _ failed => causes failed

/-- A pattern that is fine on Postgres has no function on SQLite. -/
theorem render_error_cases_spaces :
    Operation.ofName? "REGEXP_REPLACE" = some .regexpReplace ∧
      Target.check .regexpReplace ["\"scores\"", "' +'", "''"] [] = .ok () ∧
      ∃ name target,
        Target.render ⟨.sqlite, .select⟩ scoreJob "REGEXP_REPLACE" ["\"scores\"", "' +'", "''"] [] =
          .error (.unsupported name target) := by
  have named : Operation.ofName? "REGEXP_REPLACE" = some .regexpReplace := by decide
  have checked : Target.check .regexpReplace ["\"scores\"", "' +'", "''"] [] = .ok () := by rfl
  exact ⟨named, checked,
    (render_error_cases ⟨.sqlite, .select⟩ scoreJob _ _ _ _ named checked).1.2 ⟨rfl, .inl rfl⟩⟩

end SheetSql
