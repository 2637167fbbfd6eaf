import SheetSql.Proofs.Denotation.Scalar
import SheetSql.Proofs.Meaning.Number
import SheetSql.Proofs.Meaning.Quantity

namespace SheetSql

/-! Rows that hold real numbers. -/

structure RealRow extends Row where
  /-- The real numbers among the values of texts that are no constants. -/
  real? : String → Option ℝ
  shownReal : ℝ → List Char

namespace RealRow

open Classical

noncomputable def fragment (row : RealRow) (sql : String) : Quantity :=
  match literalKind? sql, row.real? sql with
  | none, some x => .real x
  | _, _ => .value (row.toRow.fragment sql)

noncomputable def holds? (row : RealRow) : Quantity → Option (Option Bool)
  | .value scalar => scalar.truth? row.dialect
  | .real x => if row.dialect = .sqlite then some (some (decide (x ≠ 0))) else none

def ofTruth (row : RealRow) (truth : Option Bool) : Quantity := .value (.ofTruth row.dialect truth)

noncomputable def binary (row : RealRow) (op : BinOp) (a b : Quantity) : Option Quantity :=
  match op with
  | .add => a.arithmetic (· + ·) (· + ·) b
  | .sub => a.arithmetic (· - ·) (· - ·) b
  | .mul => a.arithmetic (· * ·) (· * ·) b
  | .div => a.divide b
  | .eq => (a.equal? b).map row.ofTruth
  | .ne => (a.equal? b).map fun equal => row.ofTruth (equal.map (!·))
  | .lt => (a.compare (· < ·) b).map row.ofTruth
  | .gt => (a.compare (· > ·) b).map row.ofTruth
  | .le => (a.compare (· ≤ ·) b).map row.ofTruth
  | .ge => (a.compare (· ≥ ·) b).map row.ofTruth
  | .and => do return row.ofTruth (Value.andTruth (← row.holds? a) (← row.holds? b))
  | .or => do return row.ofTruth (Value.orTruth (← row.holds? a) (← row.holds? b))
  | op => do return .value (← row.toRow.binary op false (← a.scalar?) (← b.scalar?))

noncomputable def unary (row : RealRow) : UnOp → Quantity → Option Quantity
  | .not, a => do return row.ofTruth ((← row.holds? a).map (!·))
  | .neg, a => Quantity.arithmetic (· - ·) (· - ·) (.value (.int 0)) a

/-- Postgres computes with decimals exactly, so that they are the numbers that they come from. -/
noncomputable def cast (row : RealRow) (type : SqlType) (a : Quantity) : Option Quantity :=
  match type, a with
  | .numeric, a => if a.isNull || a.number?.isSome then some a else none
  | .double, .real x => some (.real x)
  | .text, .real x => some (.value (.text (row.shownReal x)))
  | type, .value scalar => (row.toRow.cast scalar type).map .value
  | _, _ => none

noncomputable def interpretation (row : RealRow) : Interpretation Quantity where
  null := .null
  isNull := Quantity.isNull
  bool := fun b => row.ofTruth (some b)
  number := fun digits => (Decimal.read? digits).map fun decimal => .value (.ofWritten digits decimal)
  text := fun content => .value (.text content)
  fragment := row.fragment
  call := Quantity.call
  binary := row.binary
  unary := row.unary
  cast := row.cast
  extract := fun _ _ => none
  atTimeZone := fun _ _ => none
  slice := fun _ _ _ => none
  holds? := row.holds?
  isNull_null := rfl
  holds?_bool := fun b => truth?_ofTruth row.dialect (some b)

def Gives (row : RealRow) (e : Expr) (x : Option ℝ) : Prop :=
  ∃ a, e.Computes row.interpretation a ∧ a.Is x

def Tests (row : RealRow) (condition : Expr) (truth : Option Bool) : Prop :=
  ∃ a, condition.Computes row.interpretation a ∧ row.holds? a = some truth

variable {row : RealRow} {left right : Expr} {x y : Option ℝ}

theorem holds?_ofTruth (row : RealRow) (truth : Option Bool) :
    row.holds? (row.ofTruth truth) = some truth :=
  truth?_ofTruth row.dialect truth

theorem tests_of_computes {condition : Expr}
    (computed : condition.Computes row.interpretation (row.ofTruth truth)) :
    row.Tests condition truth :=
  ⟨_, computed, holds?_ofTruth row truth⟩

theorem exists_values {α : Type} {Q : Quantity → α → Prop} {items : List Expr} {marks : List α}
    (each : List.Forall₂ (fun e mark => ∃ a, e.Computes row.interpretation a ∧ Q a mark)
      items marks) :
    ∃ data, List.Forall₂ (Expr.Computes row.interpretation) items data ∧
      List.Forall₂ Q data marks := by
  induction each with
  | nil => exact ⟨[], .nil, .nil⟩
  | cons first _ ih =>
    obtain ⟨a, value, holds⟩ := first
    obtain ⟨data, values, all⟩ := ih
    exact ⟨a :: data, .cons value values, .cons holds all⟩

theorem gives_null : row.Gives .null none := ⟨_, .null, rfl⟩

theorem gives_int (read : row.interpretation.number (toString n).toList = some (.value (.int n))) :
    row.Gives (.int n) (some n) :=
  ⟨_, .number read, Quantity.number?_of_int? rfl⟩

theorem gives_zero : row.Gives 0 (some 0) := by
  rw [← Int.cast_zero]
  exact gives_int rfl

theorem gives_one : row.Gives 1 (some 1) := by
  rw [← Int.cast_one]
  exact gives_int rfl

theorem gives_ofReal {e : Expr} (computed : e.Computes row.interpretation (.ofReal? x)) :
    row.Gives e x :=
  ⟨_, computed, Quantity.is_ofReal? x⟩

theorem gives_mul (first : row.Gives left x) (second : row.Gives right y) :
    row.Gives (left * right) (Option.map₂ (· * ·) x y) := by
  obtain ⟨a, value, is⟩ := first
  obtain ⟨b, value', is'⟩ := second
  obtain ⟨c, result, product⟩ := Quantity.exists_arithmetic Int.cast_mul is is'
  exact ⟨c, .binary value value' result, product⟩

theorem exists_gives_div (first : row.Gives left x) (second : row.Gives right y)
    (nonzero : y ≠ some 0) :
    ∃ z, row.Gives (left / right) z ∧
      (z = Option.map₂ (· / ·) x y ∨
        ∃ m n : Int, x = some (m : ℝ) ∧ y = some (n : ℝ) ∧ z = some ((m.tdiv n : Int) : ℝ)) := by
  obtain ⟨a, value, is⟩ := first
  obtain ⟨b, value', is'⟩ := second
  obtain ⟨c, z, result, quotient, shape⟩ := Quantity.exists_divide is is' nonzero
  exact ⟨z, ⟨c, .binary value value' result, quotient⟩, shape⟩

theorem gives_div_of_reals (first : left.Computes row.interpretation (.ofReal? x))
    (second : right.Computes row.interpretation (.ofReal? y)) (nonzero : y ≠ some 0) :
    row.Gives (left / right) (Option.map₂ (· / ·) x y) := by
  obtain ⟨c, result, quotient⟩ := Quantity.divide_ofReal? nonzero
  exact ⟨c, .binary first second result, quotient⟩

theorem gives_nullIf_zero (first : row.Gives left x) :
    row.Gives (left.nullIf 0) (if x = some 0 then none else x) := by
  obtain ⟨a, value, is⟩ := first
  obtain ⟨b, value', is'⟩ : row.Gives 0 (some 0) := gives_zero
  obtain ⟨c, result, filtered⟩ := Quantity.exists_nullIf is is'
  have same : Quantity.relation (· = ·) x (some 0) = some true ↔ x = some 0 := by
    cases x <;> simp [Quantity.relation]
  rw [if_congr same rfl rfl] at filtered
  exact ⟨c, .call (by decide) (.cons value (.cons value' .nil)) result, filtered⟩

theorem gives_orElse_zero (first : row.Gives left x) :
    row.Gives (left.orElse 0) (some (x.getD 0)) := by
  obtain ⟨a, value, is⟩ := first
  obtain ⟨zero, value', is'⟩ : row.Gives 0 (some 0) := gives_zero
  have null : row.interpretation.isNull a = x.isNone := is.isNull
  have filled : row.interpretation.isNull zero = false := is'.isNull
  cases x with
  | none =>
    refine ⟨zero, .orElse value (fun _ => value') (fun _ => filled) fun given => ?_, is'⟩
    rw [null] at given
    cases given
  | some r =>
    have given : row.interpretation.isNull a ≠ true := by
      rw [null]
      exact Bool.false_ne_true
    exact ⟨a, .orElse value (fun isNull => absurd isNull given) (fun isNull => absurd isNull given)
      fun _ => rfl, is⟩

theorem foldlM_add (row : RealRow) {rest : List Quantity} {numbers : List ℝ}
    (each : List.Forall₂ (fun a r => a.Is (some r)) rest numbers) :
    ∀ {first : Quantity} {p : ℝ}, first.Is (some p) →
      ∃ a, rest.foldlM (row.binary .add) first = some a ∧ a.Is (some (p + numbers.sum)) := by
  induction each with
  | nil =>
    intro first p is
    refine ⟨first, rfl, ?_⟩
    rw [List.sum_nil, add_zero]
    exact is
  | cons next _ ih =>
    intro first p is
    obtain ⟨b, added, is'⟩ := Quantity.exists_arithmetic Int.cast_add is next
    obtain ⟨a, total, sum⟩ := ih is'
    refine ⟨a, ?_, ?_⟩
    · rw [List.foldlM_cons]
      change (Quantity.arithmetic (· + ·) (· + ·) _ _).bind _ = _
      rw [added]
      exact total
    · rw [List.sum_cons, ← add_assoc]
      exact sum

theorem gives_sum {items : List Expr} {numbers : List ℝ}
    (each : List.Forall₂ (fun e r => row.Gives e (some r)) items numbers) (filled : items ≠ []) :
    row.Gives (.sequence .add items) (some numbers.sum) := by
  obtain ⟨data, computed, all⟩ := exists_values each
  cases all with
  | nil =>
    cases computed
    exact absurd rfl filled
  | cons is rest =>
    obtain ⟨a, total, sum⟩ := foldlM_add row rest is
    refine ⟨a, .sequence computed total, ?_⟩
    rw [List.sum_cons]
    exact sum

theorem computes_unary (named : Quantity.call function = Quantity.unary f)
    (other : function ≠ "COALESCE") (first : row.Gives left x)
    (inside : ∀ r, x = some r → f r = some (g r)) :
    (Expr.call function [left]).Computes row.interpretation (.ofReal? (x.map g)) := by
  obtain ⟨a, value, is⟩ := first
  refine .call other (.cons value .nil) ?_
  change Quantity.call function [a] = _
  rw [named, Quantity.unary_eq is inside]

theorem computes_binary (named : Quantity.call function = Quantity.binary f)
    (other : function ≠ "COALESCE") (first : row.Gives left x) (second : row.Gives right y)
    (inside : ∀ r s, x = some r → y = some s → f r s = some (g r s)) :
    (Expr.call function [left, right]).Computes row.interpretation
      (.ofReal? (Option.map₂ g x y)) := by
  obtain ⟨a, value, is⟩ := first
  obtain ⟨b, value', is'⟩ := second
  refine .call other (.cons value (.cons value' .nil)) ?_
  change Quantity.call function [a, b] = _
  rw [named, Quantity.binary_eq is is' inside]

section

variable (first : row.Gives left x) (second : row.Gives right y)
include first second

theorem tests_compare (named : ∀ a b, row.binary op a b = (a.compare p b).map row.ofTruth) :
    row.Tests (.binary left op right) (Quantity.relation p x y) := by
  obtain ⟨a, value, is⟩ := first
  obtain ⟨b, value', is'⟩ := second
  refine tests_of_computes (.binary value value' ?_)
  change row.binary op a b = _
  rw [named, Quantity.compare_eq p is is', Option.map_some]

theorem tests_lt : row.Tests (left.lt right) (Quantity.relation (· < ·) x y) :=
  tests_compare first second fun _ _ => rfl

theorem tests_gt : row.Tests (left.gt right) (Quantity.relation (· > ·) x y) :=
  tests_compare first second fun _ _ => rfl

theorem tests_le : row.Tests (left.le right) (Quantity.relation (· ≤ ·) x y) :=
  tests_compare first second fun _ _ => rfl

theorem tests_eq : row.Tests (left.eq right) (Quantity.relation (· = ·) x y) := by
  obtain ⟨a, value, is⟩ := first
  obtain ⟨b, value', is'⟩ := second
  refine tests_of_computes (.binary value value' ?_)
  change (a.equal? b).map row.ofTruth = _
  rw [Quantity.equal?_eq is is', Option.map_some]

theorem tests_ne : row.Tests (left.ne right) (Quantity.relation (· ≠ ·) x y) := by
  obtain ⟨a, value, is⟩ := first
  obtain ⟨b, value', is'⟩ := second
  have opposite : (Quantity.relation (· = ·) x y).map (!·) = Quantity.relation (· ≠ ·) x y := by
    cases x <;> cases y <;> simp [Quantity.relation]
  refine tests_of_computes (.binary value value' ?_)
  change ((a.equal? b).map fun equal => row.ofTruth (equal.map (!·))) = _
  rw [Quantity.equal?_eq is is', Option.map_some, opposite]

end

section

variable {condition other : Expr} {p q : Option Bool}

theorem tests_not (test : row.Tests condition p) : row.Tests condition.not (p.map (!·)) := by
  obtain ⟨a, value, counts⟩ := test
  refine tests_of_computes (.unary value ?_)
  change (do return row.ofTruth ((← row.holds? a).map (!·))) = _
  rw [counts]
  rfl

theorem tests_and (test : row.Tests condition p) (test' : row.Tests other q) :
    row.Tests (condition.and other) (Value.andTruth p q) := by
  obtain ⟨a, value, counts⟩ := test
  obtain ⟨b, value', counts'⟩ := test'
  refine tests_of_computes (.binary value value' ?_)
  change (do return row.ofTruth (Value.andTruth (← row.holds? a) (← row.holds? b))) = _
  rw [counts, counts']
  rfl

theorem binary_or (counts : row.holds? a = some p) (counts' : row.holds? b = some q) :
    row.binary .or a b = some (row.ofTruth (Value.orTruth p q)) := by
  change (do return row.ofTruth (Value.orTruth (← row.holds? a) (← row.holds? b))) = _
  rw [counts, counts']
  rfl

theorem foldlM_or {rest : List Quantity} {truths : List (Option Bool)}
    (each : List.Forall₂ (fun b truth => row.holds? b = some truth) rest truths) :
    ∀ {first : Quantity} {p : Option Bool}, row.holds? first = some p →
      ∃ a, rest.foldlM (row.binary .or) first = some a ∧
        row.holds? a = some (truths.foldl Value.orTruth p) := by
  induction each with
  | nil =>
    intro first p counts
    exact ⟨first, rfl, counts⟩
  | cons next _ ih =>
    intro first p counts
    obtain ⟨a, total, holds⟩ := ih (holds?_ofTruth row (Value.orTruth p _))
    refine ⟨a, ?_, holds⟩
    rw [List.foldlM_cons, binary_or counts next]
    exact total

theorem tests_or {conditions : List Expr} {truths : List (Option Bool)}
    (test : row.Tests condition p) (each : List.Forall₂ row.Tests conditions truths) :
    row.Tests (.chain .or (condition :: conditions)) (truths.foldl Value.orTruth p) := by
  obtain ⟨a, value, counts⟩ := test
  obtain ⟨data, values, all⟩ := exists_values each
  obtain ⟨b, total, holds⟩ := foldlM_or all counts
  exact ⟨b, .chain (.cons value values) total, holds⟩

end

theorem gives_case (test : row.Tests condition truth)
    (taken : truth = some true → row.Gives value x)
    (passed : truth ≠ some true → row.Gives (.caseWhen rest otherwise) x) :
    row.Gives (.caseWhen (⟨condition, value⟩ :: rest) otherwise) x := by
  obtain ⟨a, computed, counts⟩ := test
  by_cases holds : truth = some true
  · obtain ⟨b, result, is⟩ := taken holds
    exact ⟨b, .caseCons computed counts (fun _ => result) fun other => absurd holds other, is⟩
  · obtain ⟨b, result, is⟩ := passed holds
    exact ⟨b, .caseCons computed counts (fun same => absurd same holds) fun _ => result, is⟩

theorem gives_caseElse (value : row.Gives e x) : row.Gives (.caseWhen [] (some e)) x := by
  obtain ⟨a, computed, is⟩ := value
  exact ⟨a, .caseElse computed, is⟩

theorem gives_caseEnd : row.Gives (.caseWhen [] none) none := ⟨_, .caseEnd, rfl⟩

theorem gives_ite (test : row.Tests condition truth)
    (taken : truth = some true → row.Gives whenTrue x)
    (passed : truth ≠ some true → row.Gives whenFalse x) :
    row.Gives (.ite condition whenTrue whenFalse) x :=
  gives_case test taken fun other => gives_caseElse (passed other)

end RealRow

end SheetSql
