import SheetSql.Proofs.Denotation.Scalar
import SheetSql.Proofs.Meaning.Division

namespace SheetSql

/-!
Values of expressions that follow an interpretation form by form. What a query answers is left open,
so that a law of all evaluations holds for any operands, those with queries in them included.
-/

variable {D : Type} {engine : Interpretation D}

structure Evaluation (engine : Interpretation D) where
  value : Expr → Option D
  null : value .null = some engine.null
  number : ∀ digits : String, value (.number digits) = engine.number digits.toList
  text : ∀ content : String, value (.text content) = some (engine.text content.toList)
  fragment : ∀ sql : String, value (.fragment sql) = some (engine.fragment sql)
  call : ∀ {function : String} (args : List Expr), function ≠ "COALESCE" →
    value (.call function args) = (args.mapM value).bind (engine.call function)
  coalesce_nil : value (.coalesce []) = some engine.null
  /-- What comes after a value that is not null is not evaluated. -/
  coalesce_cons : ∀ (e : Expr) (rest : List Expr),
    value (.coalesce (e :: rest)) =
      (value e).bind fun d => if engine.isNull d then value (.coalesce rest) else some d
  binary : ∀ (left : Expr) (op : BinOp) (right : Expr),
    value (.binary left op right) =
      (value left).bind fun a => (value right).bind fun b => engine.binary op a b
  chain : ∀ (op : BinOp) (first : Expr) (rest : List Expr),
    value (.chain op (first :: rest)) =
      (value first).bind fun a =>
        (rest.mapM value).bind fun data => data.foldlM (engine.binary op) a
  unary : ∀ (op : UnOp) (operand : Expr),
    value (.unary op operand) = (value operand).bind (engine.unary op)
  cast : ∀ (operand : Expr) (type : SqlType),
    value (operand.cast type) = (value operand).bind (engine.cast type)
  /-- A branch is taken if its condition is true, and passed over if it is false or null. -/
  case_cons : ∀ (condition result : Expr) (rest : List Branch) (otherwise : Option Expr),
    value (.caseWhen (⟨condition, result⟩ :: rest) otherwise) =
      ((value condition).bind engine.holds?).bind fun truth =>
        if truth = some true then value result else value (.caseWhen rest otherwise)
  case_else : ∀ e : Expr, value (.caseWhen [] (some e)) = value e

theorem computeEach_eq_mapM (args : List Expr) :
    computeEach engine args = args.mapM (Expr.compute engine) := by
  induction args with
  | nil =>
    rw [computeEach]
    rfl
  | cons e rest ih => rw [computeEach, ih, List.mapM_cons]

noncomputable def Evaluation.scalar (engine : Interpretation D) : Evaluation engine where
  value := Expr.compute engine
  null := by rw [Expr.compute]
  number digits := by rw [Expr.compute]
  text content := by rw [Expr.compute]
  fragment sql := by rw [Expr.compute]
  call args other := by rw [Expr.compute, if_neg other, computeEach_eq_mapM]
  coalesce_nil := by rw [Expr.coalesce, Expr.compute, if_pos rfl, computeFirst]
  coalesce_cons e rest := by
    rw [Expr.coalesce, Expr.coalesce, Expr.compute, Expr.compute, if_pos rfl, if_pos rfl,
      computeFirst]
    rfl
  binary left op right := by
    rw [Expr.compute]
    rfl
  chain op first rest := by
    rw [Expr.compute, computeEach_eq_mapM, List.mapM_cons]
    cases first.compute engine with
    | none => rfl
    | some a => cases rest.mapM (Expr.compute engine) <;> rfl
  unary op operand := by rw [Expr.compute]
  cast operand type := by rw [Expr.compute]
  case_cons condition result rest otherwise := by
    rw [Expr.caseWhen, Expr.caseWhen, Expr.compute, Expr.compute, computeBranches]
    cases condition.compute engine <;> rfl
  case_else e := by rw [Expr.caseWhen, Expr.compute, computeBranches, computeOptional]

namespace Evaluation

variable {evaluation : Evaluation engine}

def Gives (evaluation : Evaluation engine) (e : Expr) (d : D) : Prop := evaluation.value e = some d

def firstFilled (engine : Interpretation D) (data : List D) : D :=
  (data.find? fun d => !engine.isNull d).getD engine.null

theorem mapM_value (each : List.Forall₂ evaluation.Gives args data) :
    args.mapM evaluation.value = some data := by
  induction each with
  | nil => rfl
  | cons first _ ih =>
    rw [List.mapM_cons, first, ih]
    rfl

theorem gives_call (other : function ≠ "COALESCE") (each : List.Forall₂ evaluation.Gives args data)
    (result : engine.call function data = some d) : evaluation.Gives (.call function args) d := by
  rw [Gives, evaluation.call args other, mapM_value each]
  exact result

theorem gives_coalesce (each : List.Forall₂ evaluation.Gives args data) :
    evaluation.Gives (.coalesce args) (firstFilled engine data) := by
  induction each with
  | nil => exact evaluation.coalesce_nil
  | @cons e d rest data first _ ih =>
    rw [Gives, evaluation.coalesce_cons, first, Option.bind_some]
    cases null : engine.isNull d with
    | true =>
      rw [if_pos rfl, ih, firstFilled, firstFilled, List.find?_cons_of_neg (by simp [null])]
    | false =>
      rw [if_neg Bool.false_ne_true, firstFilled, List.find?_cons_of_pos (by simp [null])]
      rfl

theorem gives_binary (first : evaluation.Gives left a) (second : evaluation.Gives right b)
    (result : engine.binary op a b = some d) : evaluation.Gives (.binary left op right) d := by
  rw [Gives, evaluation.binary, first, second]
  exact result

theorem gives_chain (first : evaluation.Gives e a) (each : List.Forall₂ evaluation.Gives rest data)
    (result : data.foldlM (engine.binary op) a = some d) :
    evaluation.Gives (.chain op (e :: rest)) d := by
  rw [Gives, evaluation.chain, first, mapM_value each]
  exact result

theorem gives_unary (value : evaluation.Gives operand a) (result : engine.unary op a = some d) :
    evaluation.Gives (.unary op operand) d := by
  rw [Gives, evaluation.unary, value]
  exact result

theorem gives_cast (value : evaluation.Gives operand a) (result : engine.cast type a = some d) :
    evaluation.Gives (operand.cast type) d := by
  rw [Gives, evaluation.cast, value]
  exact result

theorem gives_ite [Decidable p] (test : evaluation.Gives condition (engine.bool (decide p)))
    (taken : p → evaluation.Gives whenTrue d) (passed : ¬p → evaluation.Gives whenFalse d) :
    evaluation.Gives (.ite condition whenTrue whenFalse) d := by
  rw [Gives, Expr.ite, evaluation.case_cons, test, Option.bind_some, engine.holds?_bool,
    Option.bind_some]
  by_cases holds : p
  · rw [if_pos (congrArg some (decide_eq_true holds))]
    exact taken holds
  · rw [decide_eq_false holds, if_neg (by decide), evaluation.case_else]
    exact passed holds

def Yields (evaluation : Evaluation engine) (compiled : Except Error Expr) (d : D) : Prop :=
  ∃ e, compiled = .ok e ∧ evaluation.Gives e d

def Writes (evaluation : Evaluation engine) (call : Call) (d : D) : Prop :=
  ∃ e, call.target.renderOperation call.job call.operation call.args call.hints =
      .ok (e.print call.dialect) ∧
    evaluation.Gives e d

theorem writes_of_yields {call : Call}
    (checked : Target.check call.operation call.args call.hints = .ok ())
    (yields : evaluation.Yields call.compile d) : evaluation.Writes call d := by
  obtain ⟨e, compiled, value⟩ := yields
  exact ⟨e, renderOperation_of_compile checked compiled, value⟩

end Evaluation

end SheetSql
