import SheetSql.Proofs.Denotation.Interpretation
import SheetSql.Proofs.Meaning.Value

namespace SheetSql

/-! The values of expressions without queries, lists and choices by equality included. -/

mutual

noncomputable def Expr.compute {D : Type} (engine : Interpretation D) : Expr → Option D
  | .null => some engine.null
  | .bool b => some (engine.bool b)
  | .number digits => engine.number digits.toList
  | .text content => some (engine.text content.toList)
  | .fragment sql => some (engine.fragment sql)
  | .call function args =>
    if function = "COALESCE" then computeFirst engine args
    else (computeEach engine args).bind (engine.call function)
  | .binary left op right => do
      engine.binary op (← left.compute engine) (← right.compute engine)
  | .chain op items => do
      match ← computeEach engine items with
      | [] => none
      | first :: rest => rest.foldlM (engine.binary op) first
  | .unary op operand => (operand.compute engine).bind (engine.unary op)
  | .nullTest operand negated =>
    (operand.compute engine).map fun d => engine.bool (engine.isNull d != negated)
  | .member operand list negated => do
      let found ← computeAmong engine (← operand.compute engine) list
      return (if negated then found.map (!·) else found).elim engine.null engine.bool
  | .cast operand type => (operand.compute engine).bind (engine.cast type)
  | .case none branches otherwise =>
    computeBranches engine (computeOptional engine otherwise) branches
  | .case (some subject) branches otherwise =>
    (subject.compute engine).bind fun d =>
      computeBranchesOf engine d (computeOptional engine otherwise) branches
  | .atTimeZone operand zone => do
      engine.atTimeZone (← operand.compute engine) (← zone.compute engine)
  | .extract field operand => (operand.compute engine).bind (engine.extract field)
  | _ => none

noncomputable def computeEach {D : Type} (engine : Interpretation D) :
    List Expr → Option (List D)
  | [] => some []
  | e :: rest => do return (← e.compute engine) :: (← computeEach engine rest)

noncomputable def computeFirst {D : Type} (engine : Interpretation D) : List Expr → Option D
  | [] => some engine.null
  | e :: rest => do
      let d ← e.compute engine
      if engine.isNull d then computeFirst engine rest else return d

noncomputable def computeAmong {D : Type} (engine : Interpretation D) (d : D) :
    List Expr → Option (Option Bool)
  | [] => some (some false)
  | e :: rest => do
      let same ← engine.holds? (← engine.binary .eq d (← e.compute engine))
      return Value.orTruth same (← computeAmong engine d rest)

noncomputable def computeOptional {D : Type} (engine : Interpretation D) : Option Expr → Option D
  | none => some engine.null
  | some e => e.compute engine

noncomputable def computeBranches {D : Type} (engine : Interpretation D) (default : Option D) :
    List Branch → Option D
  | [] => default
  | ⟨condition, value⟩ :: rest => do
      let holds ← engine.holds? (← condition.compute engine)
      if holds = some true then value.compute engine else computeBranches engine default rest

noncomputable def computeBranchesOf {D : Type} (engine : Interpretation D) (subject : D)
    (default : Option D) : List Branch → Option D
  | [] => default
  | ⟨condition, value⟩ :: rest => do
      let holds ← engine.holds? (← engine.binary .eq subject (← condition.compute engine))
      if holds = some true then value.compute engine
      else computeBranchesOf engine subject default rest

end

section

variable {D : Type} {engine : Interpretation D}

-- The equations of the evaluation, with which the rules below open.
attribute [local simp] Expr.compute computeEach computeFirst computeAmong computeOptional
  computeBranches computeBranchesOf

def Expr.Computes (engine : Interpretation D) (e : Expr) (d : D) : Prop :=
  e.compute engine = some d

theorem computeEach_of_forall₂ (each : List.Forall₂ (Expr.Computes engine) args data) :
    computeEach engine args = some data := by
  induction each with
  | nil => rw [computeEach]
  | cons first _ ih =>
    rw [computeEach, first, ih]
    rfl

theorem computeBranches_cons {condition value : Expr} {rest : List Branch} {default : Option D}
    {d : D} {truth : Option Bool} (test : condition.Computes engine d)
    (counts : engine.holds? d = some truth) :
    computeBranches engine default (⟨condition, value⟩ :: rest) =
      if truth = some true then value.compute engine
      else computeBranches engine default rest := by
  rw [computeBranches, test]
  change (do
    let holds ← engine.holds? d
    if holds = some true then value.compute engine
    else computeBranches engine default rest) = _
  rw [counts]
  rfl

theorem computeBranchesOf_cons {subject d same : D} {condition value : Expr} {rest : List Branch}
    {default : Option D} {truth : Option Bool} (item : condition.Computes engine d)
    (compared : engine.binary .eq subject d = some same)
    (counts : engine.holds? same = some truth) :
    computeBranchesOf engine subject default (⟨condition, value⟩ :: rest) =
      if truth = some true then value.compute engine
      else computeBranchesOf engine subject default rest := by
  rw [computeBranchesOf, item]
  change (do
    let holds ← engine.holds? (← engine.binary .eq subject d)
    if holds = some true then value.compute engine
    else computeBranchesOf engine subject default rest) = _
  rw [compared]
  change (do
    let holds ← engine.holds? same
    if holds = some true then value.compute engine
    else computeBranchesOf engine subject default rest) = _
  rw [counts]
  rfl

namespace Expr.Computes

theorem null : Computes engine .null engine.null := by rw [Computes, compute]

theorem number {digits : String} {d : D} (read : engine.number digits.toList = some d) :
    Computes engine (.number digits) d := by rw [Computes, compute, read]

theorem text (content : String) : Computes engine (.text content) (engine.text content.toList) := by
  rw [Computes, compute]

theorem fragment (sql : String) : Computes engine (.fragment sql) (engine.fragment sql) := by
  rw [Computes, compute]

theorem call {function : String} {args : List Expr} {data : List D} {d : D}
    (other : function ≠ "COALESCE") (each : List.Forall₂ (Computes engine) args data)
    (result : engine.call function data = some d) : Computes engine (.call function args) d := by
  rw [Computes, compute, if_neg other, computeEach_of_forall₂ each]
  exact result

theorem orElse {default : Expr} (first : Computes engine operand a)
    (second : engine.isNull a = true → Computes engine default b)
    (filled : engine.isNull a = true → engine.isNull b = false)
    (kept : engine.isNull a = false → a = b) : Computes engine (operand.orElse default) b := by
  rw [Computes, Expr.orElse, Expr.coalesce, compute, if_pos rfl, computeFirst, first]
  change (if engine.isNull a = true then computeFirst engine [default] else some a) = _
  cases null : engine.isNull a with
  | false => rw [if_neg Bool.false_ne_true, kept null]
  | true =>
    rw [if_pos rfl, computeFirst, second null]
    change (if engine.isNull b = true then computeFirst engine [] else some b) = _
    rw [filled null, if_neg Bool.false_ne_true]

theorem binary (first : Computes engine left a) (second : Computes engine right b)
    (result : engine.binary op a b = some d) : Computes engine (.binary left op right) d := by
  rw [Computes, compute, first, second]
  exact result

theorem chain (each : List.Forall₂ (Computes engine) items (first :: rest))
    (result : rest.foldlM (engine.binary op) first = some d) :
    Computes engine (.chain op items) d := by
  rw [Computes, compute, computeEach_of_forall₂ each]
  exact result

theorem sequence (each : List.Forall₂ (Computes engine) items (first :: rest))
    (result : rest.foldlM (engine.binary op) first = some d) :
    Computes engine (.sequence op items) d := by
  cases each with
  | cons value others =>
    cases others with
    | nil =>
      cases result
      exact value
    | cons next others => exact .chain (.cons value (.cons next others)) result

theorem unary (value : Computes engine operand a) (result : engine.unary op a = some d) :
    Computes engine (.unary op operand) d := by
  rw [Computes, compute, value]
  exact result

theorem isNull (value : Computes engine operand a) :
    Computes engine operand.isNull (engine.bool (engine.isNull a)) := by
  rw [Computes, Expr.isNull, compute, value, Option.map_some, Bool.bne_false]

theorem isIn (value : Computes engine operand a) (among : computeAmong engine a list = some found) :
    Computes engine (operand.isIn list) (found.elim engine.null engine.bool) := by
  rw [Computes, Expr.isIn, compute, value]
  change (do
    let found ← computeAmong engine a list
    return (if false = true then found.map (!·) else found).elim engine.null engine.bool) = _
  rw [among]
  rfl

theorem cast (value : Computes engine operand a) (result : engine.cast type a = some d) :
    Computes engine (operand.cast type) d := by
  rw [Computes, compute, value]
  exact result

theorem atTimeZone (first : Computes engine operand a) (second : Computes engine zone b)
    (result : engine.atTimeZone a b = some d) : Computes engine (operand.atTimeZone zone) d := by
  rw [Computes, compute, first, second]
  exact result

theorem caseCons {condition value : Expr} {rest : List Branch} {otherwise : Option Expr}
    {test d : D} {truth : Option Bool} (tests : Computes engine condition test)
    (counts : engine.holds? test = some truth)
    (taken : truth = some true → Computes engine value d)
    (passed : truth ≠ some true → Computes engine (.caseWhen rest otherwise) d) :
    Computes engine (.caseWhen (⟨condition, value⟩ :: rest) otherwise) d := by
  rw [Computes, Expr.caseWhen, compute, computeBranches_cons tests counts]
  by_cases holds : truth = some true
  · rw [if_pos holds]
    exact taken holds
  · have rest := passed holds
    rw [Computes, Expr.caseWhen, compute] at rest
    rw [if_neg holds]
    exact rest

theorem caseElse (value : Computes engine e d) : Computes engine (.caseWhen [] (some e)) d := by
  rw [Computes, Expr.caseWhen, compute, computeBranches, computeOptional, value]

theorem caseEnd : Computes engine (.caseWhen [] none) engine.null := by
  rw [Computes, Expr.caseWhen, compute, computeBranches, computeOptional]

theorem ite (tests : Computes engine condition test) (counts : engine.holds? test = some truth)
    (taken : truth = some true → Computes engine whenTrue d)
    (passed : truth ≠ some true → Computes engine whenFalse d) :
    Computes engine (.ite condition whenTrue whenFalse) d :=
  .caseCons tests counts taken fun other => .caseElse (passed other)

end Expr.Computes

end

end SheetSql
