import SheetSql.Proofs.Meaning.Datum
import SheetSql.Proofs.Number.Written

namespace SheetSql

/-! Evaluation step by step. -/

open Steps

mutual

noncomputable def Expr.run (engine : Engine) : Expr → Steps Datum
  | .null => quiet (some (.value .null))
  | .bool b => quiet (some (.value (.ofBool engine.dialect b)))
  | .number digits =>
    quiet ((Decimal.read? digits.toList).map fun decimal =>
      .value (.ofWritten digits.toList decimal))
  | .text content => quiet (some (.value (.text content.toList)))
  | .fragment sql => quiet (some (.value (engine.fragment sql)))
  | .call function args =>
    if function = "COALESCE" then runFirst engine args
    else do
      let data ← runEach engine args
      noted (.call function data) (engine.apply function data)
  | .binary left op right => do
      let a ← left.run engine
      let b ← right.run engine
      quiet (engine.binary op (left.isInteger engine.toRow && right.isInteger engine.toRow) a b)
  | .chain op items => do
      let data ← runEach engine items
      quiet (((data.mapM Datum.scalar?).bind
        (engine.chain op (areIntegers engine.toRow items))).map .value)
  | .unary op operand => do
      let a ← operand.run engine
      quiet ((a.scalar?.bind (engine.unary op)).map .value)
  | .nullTest operand negated => do
      let a ← operand.run engine
      quiet (some (.value (.ofBool engine.dialect (a.isNull != negated))))
  | .cast operand type => do
      let a ← operand.run engine
      noted (.cast a type) (engine.cast a type)
  | .case none branches otherwise => runBranches engine (runOptional engine otherwise) branches
  | .atTimeZone operand zone => do
      let a ← operand.run engine
      let b ← zone.run engine
      quiet (Engine.atTimeZone a b)
  | .extract field operand => do
      let a ← operand.run engine
      quiet (Engine.extract field a)
  | .subscript array index => do
      let a ← array.run engine
      let b ← index.run engine
      quiet (Engine.subscript a b)
  | _ => quiet none

noncomputable def runEach (engine : Engine) : List Expr → Steps (List Datum)
  | [] => quiet (some [])
  | e :: rest => do
      let a ← e.run engine
      let more ← runEach engine rest
      quiet (some (a :: more))

noncomputable def runFirst (engine : Engine) : List Expr → Steps Datum
  | [] => quiet (some (.value .null))
  | e :: rest => do
      let a ← e.run engine
      if a.isNull then runFirst engine rest else quiet (some a)

noncomputable def runOptional (engine : Engine) : Option Expr → Steps Datum
  | none => quiet (some (.value .null))
  | some e => e.run engine

noncomputable def runBranches (engine : Engine) (default : Steps Datum) :
    List Branch → Steps Datum
  | [] => default
  | ⟨condition, value⟩ :: rest => do
      let a ← condition.run engine
      let holds ← quiet (a.scalar?.bind (Value.truth? engine.dialect))
      if holds = some true then value.run engine else runBranches engine default rest

end

section

variable {engine : Engine} {allowed : Act → Prop}

-- The equations of the evaluation, with which the lemmas below open.
attribute [local simp] Expr.run runEach runFirst runBranches runOptional

theorem run_text (content : String) :
    ((Expr.text content).run engine).Gives allowed (.value (.text content.toList)) := by
  rw [Expr.run]
  exact .quiet rfl

theorem run_number {digits : String} (read : Decimal.read? digits.toList = some decimal) :
    ((Expr.number digits).run engine).Gives allowed
      (.value (.ofWritten digits.toList decimal)) := by
  rw [Expr.run]
  apply Gives.quiet
  rw [read]
  rfl

theorem exists_written_of_isDigits (digits : Decimal.isDigits cs = true) (filled : cs ≠ []) :
    ∃ number : Written, number.text = cs ∧ number.decimal = ⟨false, Decimal.natOf cs, 0⟩ := by
  refine ⟨⟨none, cs, none, none, digits, rfl, .inl filled⟩, ?_, ?_⟩
  · simp [Written.text, Written.signText, Written.mantissa, Written.fractionText,
      Written.powerText]
  · simp [Written.decimal, Written.exponent]

theorem read?_of_isDigits (digits : Decimal.isDigits cs = true) (filled : cs ≠ []) :
    Decimal.read? cs = some ⟨false, Decimal.natOf cs, 0⟩ := by
  obtain ⟨number, rfl, decimal⟩ := exists_written_of_isDigits digits filled
  rw [number.read?_text, decimal]

theorem toList_nat (n : Nat) : (toString (n : Int)).toList = Nat.toDigits 10 n := by
  change n.repr.toList = _
  rw [Nat.repr_eq_ofList_toDigits, String.toList_ofList]

theorem read?_nat (n : Nat) : Decimal.read? (toString (n : Int)).toList = some ⟨false, n, 0⟩ := by
  have digits : Decimal.isDigits (Nat.toDigits 10 n) = true :=
    List.all_eq_true.2 fun _ member => Regex.isDigit_toDigits member
  rw [toList_nat, read?_of_isDigits digits Nat.toDigits_ne_nil, Regex.natOf_toDigits]

theorem ofWritten_nat (n : Nat) :
    Value.ofWritten (toString (n : Int)).toList ⟨false, n, 0⟩ = .int n := by
  have plain : ((Nat.toDigits 10 n).all fun c => c.isDigit || c == '-' || c == '+') = true := by
    refine List.all_eq_true.2 fun c member => ?_
    rw [Regex.isDigit_toDigits member]
    rfl
  rw [toList_nat, Value.ofWritten, if_pos plain]
  rfl

theorem run_nat (n : Nat) : ((Expr.int n).run engine).Gives allowed (.value (.int n)) := by
  rw [Expr.int, ← ofWritten_nat]
  exact run_number (read?_nat n)

theorem runEach_nil : (runEach engine []).Gives allowed [] := by
  rw [runEach]
  exact .quiet rfl

theorem runEach_cons {e : Expr} (first : (e.run engine).Gives allowed a)
    (each : (runEach engine rest).Gives allowed more) :
    (runEach engine (e :: rest)).Gives allowed (a :: more) := by
  rw [runEach]
  exact first.bind (each.bind (.quiet rfl))

theorem runEach_of_forall₂
    (each : List.Forall₂ (fun e a => (e.run engine).Gives allowed a) items data) :
    (runEach engine items).Gives allowed data := by
  induction each with
  | nil => exact runEach_nil
  | cons first rest ih => exact runEach_cons first ih

theorem run_call (other : function ≠ "COALESCE") (each : (runEach engine args).Gives allowed data)
    (result : engine.apply function data = some a) (may : allowed (.call function data)) :
    ((Expr.call function args).run engine).Gives allowed a := by
  rw [Expr.run, if_neg other]
  exact each.bind (.noted result may)

theorem run_binary {left right : Expr} (first : (left.run engine).Gives allowed a)
    (second : (right.run engine).Gives allowed b)
    (result : engine.binary op (left.isInteger engine.toRow && right.isInteger engine.toRow) a b =
      some c) : ((Expr.binary left op right).run engine).Gives allowed c := by
  rw [Expr.run]
  exact first.bind (second.bind (.quiet result))

theorem run_chain (values : List Value)
    (each : (runEach engine items).Gives allowed (values.map .value))
    (result : engine.chain op (areIntegers engine.toRow items) values = some a) :
    ((Expr.chain op items).run engine).Gives allowed (.value a) := by
  rw [Expr.run]
  refine each.bind (.quiet ?_)
  rw [Engine.mapM_scalar?, Option.bind_some, result]
  rfl

theorem run_nullTest {operand : Expr} (negated : Bool)
    (value : (operand.run engine).Gives allowed a) :
    ((operand.nullTest negated).run engine).Gives allowed
      (.value (.ofBool engine.dialect (a.isNull != negated))) := by
  rw [Expr.run]
  exact value.bind (.quiet rfl)

theorem run_cast {operand : Expr} (value : (operand.run engine).Gives allowed a)
    (result : engine.cast a type = some b) (may : allowed (.cast a type)) :
    ((operand.cast type).run engine).Gives allowed b := by
  rw [Expr.run]
  exact value.bind (.noted result may)

theorem run_atTimeZone {operand zone : Expr} (first : (operand.run engine).Gives allowed a)
    (second : (zone.run engine).Gives allowed b) (result : Engine.atTimeZone a b = some c) :
    ((operand.atTimeZone zone).run engine).Gives allowed c := by
  rw [Expr.run]
  exact first.bind (second.bind (.quiet result))

theorem run_extract {operand : Expr} (value : (operand.run engine).Gives allowed a)
    (result : Engine.extract field a = some b) :
    ((Expr.extract field operand).run engine).Gives allowed b := by
  rw [Expr.run]
  exact value.bind (.quiet result)

theorem run_subscript {array index : Expr} (first : (array.run engine).Gives allowed a)
    (second : (index.run engine).Gives allowed b) (result : Engine.subscript a b = some c) :
    ((array.subscript index).run engine).Gives allowed c := by
  rw [Expr.run]
  exact first.bind (second.bind (.quiet result))

theorem run_orElse {first second : Expr} (value : (first.run engine).Gives allowed a)
    (default : (second.run engine).Gives allowed b) (known : b.isNull = false) :
    ((first.orElse second).run engine).Gives allowed (if a.isNull then b else a) := by
  rw [Expr.orElse, Expr.coalesce, Expr.run, if_pos rfl, runFirst]
  apply value.bind
  cases a.isNull with
  | false => exact .quiet rfl
  | true =>
    rw [if_pos rfl, if_pos rfl, runFirst]
    apply default.bind
    rw [known]
    exact .quiet rfl

variable {condition value : Expr} {rest : List Branch} {default : Steps Datum} {holds : Datum}
  {truth : Option Bool}

theorem runBranches_cons (test : (condition.run engine).Gives allowed holds)
    (counts : holds.scalar?.bind (Value.truth? engine.dialect) = some truth)
    (taken : truth = some true → (value.run engine).Gives allowed a)
    (passed : truth ≠ some true → (runBranches engine default rest).Gives allowed a) :
    (runBranches engine default (⟨condition, value⟩ :: rest)).Gives allowed a := by
  rw [runBranches]
  refine test.bind (Gives.bind (.quiet counts) ?_)
  split
  · exact taken ‹_›
  · exact passed ‹_›

theorem run_caseWhen
    (value : (runBranches engine (runOptional engine otherwise) branches).Gives allowed a) :
    ((Expr.caseWhen branches otherwise).run engine).Gives allowed a := by
  rw [Expr.caseWhen, Expr.run]
  exact value

theorem runOptional_none : (runOptional engine none).Gives allowed (.value .null) := by
  rw [runOptional]
  exact .quiet rfl

theorem run_ite {whenTrue whenFalse : Expr} (test : (condition.run engine).Gives allowed holds)
    (counts : holds.scalar?.bind (Value.truth? engine.dialect) = some truth)
    (taken : truth = some true → (whenTrue.run engine).Gives allowed a)
    (passed : truth ≠ some true → (whenFalse.run engine).Gives allowed a) :
    ((Expr.ite condition whenTrue whenFalse).run engine).Gives allowed a := by
  refine run_caseWhen (runBranches_cons test counts taken ?_)
  intro other
  rw [runBranches, runOptional]
  exact passed other

variable {act : Act}

theorem does_call {function : String} {args : List Expr} {data : List Datum}
    (other : function ≠ "COALESCE") (each : (runEach engine args).Gives allowed data) :
    ((Expr.call function args).run engine).Does (.call function data) := by
  rw [Expr.run, if_neg other]
  exact .bind_right each (.noted _)

theorem does_binary_left {left : Expr} (does : (left.run engine).Does act) :
    ((Expr.binary left op right).run engine).Does act := by
  rw [Expr.run]
  exact does.bind_left

theorem does_atTimeZone_left {operand : Expr} (does : (operand.run engine).Does act) :
    ((operand.atTimeZone zone).run engine).Does act := by
  rw [Expr.run]
  exact does.bind_left

theorem does_branches_cons (test : (condition.run engine).Gives allowed holds)
    (counts : holds.scalar?.bind (Value.truth? engine.dialect) = some truth)
    (taken : truth = some true → (value.run engine).Does act)
    (passed : truth ≠ some true → (runBranches engine default rest).Does act) :
    (runBranches engine default (⟨condition, value⟩ :: rest)).Does act := by
  rw [runBranches]
  have known : (quiet (holds.scalar?.bind (Value.truth? engine.dialect))).Gives allowed truth :=
    .quiet counts
  refine .bind_right test (.bind_right known ?_)
  split
  · exact taken ‹_›
  · exact passed ‹_›

theorem does_caseWhen {branches : List Branch} {otherwise : Option Expr}
    (does : (runBranches engine (runOptional engine otherwise) branches).Does act) :
    ((Expr.caseWhen branches otherwise).run engine).Does act := by
  rw [Expr.caseWhen, Expr.run]
  exact does

end

end SheetSql
