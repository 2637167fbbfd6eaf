import SheetSql.Compile.Numeric
import SheetSql.Compile.Rounding
import SheetSql.Proofs.Meaning.RealRow

namespace SheetSql

/-! Functions that are not defined everywhere. -/

open Quantity

/-- A quotient, which is missing if the divisor is zero. That of integers may have no fraction. -/
def IsQuotient (x y : ℝ) : Option ℝ → Prop
  | none => y = 0
  | some z => y ≠ 0 ∧ (z = x / y ∨ ∃ m n : Int, x = m ∧ y = n ∧ z = (m.tdiv n : Int))

/-- A quotient that is rounded and multiplied again, which is missing if a number is. -/
def IsMultiple (rounding : ℝ → ℝ) : (x significance : Option ℝ) → Option ℝ → Prop
  | some x, some significance, z =>
    ∃ quotient, IsQuotient x significance quotient ∧
      z = quotient.map (rounding · * significance)
  | _, _, z => z = none

namespace RealRow

variable {row : RealRow} {left right : Expr} {x y : Option ℝ}

theorem relation_eq_true : relation p x y = some true ↔ ∃ r s, x = some r ∧ y = some s ∧ p r s := by
  simp [relation, Option.map₂_eq_some_iff]

theorem andTruth_eq_true : Value.andTruth p q = some true ↔ p = some true ∧ q = some true := by
  rcases p with _ | _ | _ <;> rcases q with _ | _ | _ <;> decide

theorem orTruth_eq_true : Value.orTruth p q = some true ↔ p = some true ∨ q = some true := by
  rcases p with _ | _ | _ <;> rcases q with _ | _ | _ <;> decide

theorem gives_maxExponent : row.Gives Call.maxExponent (some 709) := by
  have value : row.Gives Call.maxExponent (some ((709 : Int) : ℝ)) := gives_int rfl
  rwa [Int.cast_ofNat] at value

theorem gives_minExponent : row.Gives Call.minExponent (some (-700)) := by
  have value : row.Gives Call.minExponent (some ((-700 : Int) : ℝ)) := gives_int rfl
  rwa [Int.cast_neg, Int.cast_ofNat] at value

theorem gives_sqrt (first : row.Gives left x) :
    row.Gives (.caseWhen [⟨left.lt 0, .null⟩] (some (.call "SQRT" [left]))) (x.bind sqrt?) := by
  refine gives_case (tests_lt first gives_zero) (fun negative => ?_) fun other => ?_
  · obtain ⟨r, s, rfl, ⟨⟩, less⟩ := relation_eq_true.1 negative
    rw [Option.bind_some, sqrt?, if_pos less]
    exact gives_null
  · have inside : ∀ r, x = some r → sqrt? r = some √r := by
      intro r same
      exact if_neg fun less => other (relation_eq_true.2 ⟨r, 0, same, rfl, less⟩)
    have root : x.bind sqrt? = x.map Real.sqrt := by
      cases x with
      | none => rfl
      | some r => exact inside r rfl
    rw [root]
    exact gives_caseElse (gives_ofReal (computes_unary rfl (by decide) first inside))

theorem gives_inRange (magnitude : row.Gives size x) (both : x = none ↔ y = none)
    (value : (∀ r, x = some r → ¬709 < r) → row.Gives e y) :
    row.Gives (.caseWhen [⟨size.gt Call.maxExponent, .null⟩, ⟨size.lt Call.minExponent, 0⟩]
      (some e)) (x.bind fun r => y.bind (inRange r)) := by
  refine gives_case (tests_gt magnitude gives_maxExponent) (fun great => ?_) fun notGreat =>
    gives_case (tests_lt magnitude gives_minExponent) (fun small => ?_) fun notSmall => ?_
  · obtain ⟨r, _, rfl, ⟨⟩, greater⟩ := relation_eq_true.1 great
    have missing : ((some r).bind fun r => y.bind (inRange r)) = none := by
      cases y with
      | none => rfl
      | some s => exact if_pos greater
    rw [missing]
    exact gives_null
  · obtain ⟨r, _, rfl, ⟨⟩, less⟩ := relation_eq_true.1 small
    have bounded : ¬(709 : ℝ) < r := by linarith
    obtain ⟨s, rfl⟩ := Option.ne_none_iff_exists'.1 (mt both.2 (Option.some_ne_none r))
    rw [Option.bind_some, Option.bind_some, inRange, if_neg bounded, if_pos less]
    exact gives_zero
  · have bounded : ∀ r, x = some r → ¬709 < r := fun r same greater =>
      notGreat (relation_eq_true.2 ⟨r, 709, same, rfl, greater⟩)
    have kept : (x.bind fun r => y.bind (inRange r)) = y := by
      cases x with
      | none => exact (both.1 rfl).symm
      | some r =>
        cases y with
        | none => rfl
        | some s =>
          rw [Option.bind_some, Option.bind_some, inRange, if_neg (bounded r rfl), if_neg]
          exact fun less => notSmall (relation_eq_true.2 ⟨r, -700, rfl, rfl, less⟩)
    rw [kept]
    exact gives_caseElse (value bounded)

theorem gives_exp (first : row.Gives left x) :
    row.Gives (.caseWhen [⟨left.gt Call.maxExponent, .null⟩, ⟨left.lt Call.minExponent, 0⟩]
      (some (.call "EXP" [left]))) (x.bind expAt) := by
  have both : x = none ↔ x.map Real.exp = none := Option.map_eq_none_iff.symm
  have value : (∀ r, x = some r → ¬709 < r) →
      row.Gives (.call "EXP" [left]) (x.map Real.exp) := fun bounded =>
    gives_ofReal (computes_unary rfl (by decide) first fun r same => if_neg (bounded r same))
  have ranged := gives_inRange first both value
  have result : (x.bind fun r => (x.map Real.exp).bind (inRange r)) = x.bind expAt := by
    cases x <;> rfl
  rwa [result] at ranged

theorem nullIf_zero_ne_zero (y : Option ℝ) : (if y = some 0 then none else y) ≠ some 0 := by
  split
  · exact (Option.some_ne_none _).symm
  · next nonzero => exact nonzero

section

variable (first : row.Gives left x) (second : row.Gives right y)

include first second

theorem gives_magnitude (nonzero : x ≠ some 0) :
    row.Gives (right * .call "LN" [.call "ABS" [left]])
      (Option.map₂ (fun r s => s * Real.log |r|) x y) := by
  have size : row.Gives (.call "ABS" [left]) (x.map (|·|)) :=
    gives_ofReal (computes_unary rfl (by decide) first fun _ _ => rfl)
  have inside : ∀ r, x.map (|·|) = some r → log? r = some (Real.log r) := by
    intro r same
    obtain ⟨base, rfl, rfl⟩ := Option.map_eq_some_iff.1 same
    have positive : 0 < |base| := abs_pos.2 fun zero => nonzero (congrArg some zero)
    exact if_neg positive.not_ge
  have logarithm : row.Gives (.call "LN" [.call "ABS" [left]]) ((x.map (|·|)).map Real.log) :=
    gives_ofReal (computes_unary rfl (by decide) size inside)
  have product := gives_mul second logarithm
  have shape : Option.map₂ (· * ·) y ((x.map (|·|)).map Real.log) =
      Option.map₂ (fun r s => s * Real.log |r|) x y := by
    cases x <;> cases y <;> rfl
  rwa [shape] at product

theorem gives_power (inside : ∀ r s, x = some r → y = some s → ¬(r = 0 ∧ s < 0 ∨ r < 0 ∧ s ≠ ⌊s⌋)) :
    row.Gives (.call "POWER" [left, right]) (Option.map₂ (· ^ ·) x y) :=
  gives_ofReal (computes_binary rfl (by decide) first second fun r s same same' =>
    if_neg (inside r s same same'))

theorem exists_tests_fractional :
    ∃ truth, row.Tests ((left.lt 0).and (right.ne (.call "FLOOR" [right]))) truth ∧
      (truth = some true ↔ ∃ r s, x = some r ∧ y = some s ∧ r < 0 ∧ s ≠ ⌊s⌋) := by
  have floor : row.Gives (.call "FLOOR" [right]) (y.map fun s => (⌊s⌋ : ℝ)) :=
    gives_ofReal (computes_unary rfl (by decide) second fun _ _ => rfl)
  refine ⟨_, tests_and (tests_lt first gives_zero) (tests_ne second floor), ?_⟩
  rw [andTruth_eq_true, relation_eq_true, relation_eq_true]
  constructor
  · rintro ⟨⟨r, _, rfl, ⟨⟩, negative⟩, s, _, rfl, ⟨⟩, other⟩
    exact ⟨r, s, rfl, rfl, negative, other⟩
  · rintro ⟨r, s, rfl, rfl, negative, other⟩
    exact ⟨⟨r, 0, rfl, rfl, negative⟩, s, _, rfl, rfl, other⟩

theorem exists_tests_outside :
    ∃ truth, row.Tests (.chain .or [left.le 0, right.le 0, right.eq 1]) truth ∧
      (truth = some true ↔
        (∃ r, x = some r ∧ r ≤ 0) ∨ ∃ s, y = some s ∧ (s ≤ 0 ∨ s = 1)) := by
  refine ⟨_, tests_or (tests_le first gives_zero)
    (.cons (tests_le second gives_zero) (.cons (tests_eq second gives_one) .nil)), ?_⟩
  rw [List.foldl_cons, List.foldl_cons, List.foldl_nil, orTruth_eq_true, orTruth_eq_true,
    relation_eq_true, relation_eq_true, relation_eq_true]
  constructor
  · rintro ((⟨r, _, same, ⟨⟩, least⟩ | ⟨s, _, same, ⟨⟩, least⟩) | ⟨s, _, same, ⟨⟩, one⟩)
    · exact .inl ⟨r, same, least⟩
    · exact .inr ⟨s, same, .inl least⟩
    · exact .inr ⟨s, same, .inr one⟩
  · rintro (⟨r, same, least⟩ | ⟨s, same, least | one⟩)
    · exact .inl (.inl ⟨r, 0, same, rfl, least⟩)
    · exact .inl (.inr ⟨s, 0, same, rfl, least⟩)
    · exact .inr ⟨s, 1, same, rfl, one⟩

theorem gives_logOf : row.Gives (Call.logOf left right) (x.bind fun r => y.bind (logAt r)) := by
  obtain ⟨truth, test, outside_iff⟩ := exists_tests_outside first second
  refine gives_case test (fun outside => ?_) fun other => ?_
  · rcases outside_iff.1 outside with ⟨r, rfl, least⟩ | ⟨s, rfl, outer⟩
    · have missing : ((some r).bind fun r => y.bind (logAt r)) = none := by
        cases y with
        | none => rfl
        | some s => exact if_pos (.inl least)
      rw [missing]
      exact gives_null
    · have missing : (x.bind fun r => (some s).bind (logAt r)) = none := by
        cases x with
        | none => rfl
        | some r => exact if_pos (.inr outer)
      rw [missing]
      exact gives_null
  · have positive : ∀ r, x = some r → ¬r ≤ 0 := fun r same least =>
      other (outside_iff.2 (.inl ⟨r, same, least⟩))
    have proper : ∀ s, y = some s → ¬(s ≤ 0 ∨ s = 1) := fun s same outer =>
      other (outside_iff.2 (.inr ⟨s, same, outer⟩))
    have divisor : y.map Real.log ≠ some 0 := by
      intro same
      obtain ⟨s, same, zero⟩ := Option.map_eq_some_iff.1 same
      obtain ⟨above, notOne⟩ := not_or.1 (proper s same)
      exact Real.log_ne_zero_of_pos_of_ne_one (not_le.1 above) notOne zero
    have result : (x.bind fun r => y.bind (logAt r)) =
        Option.map₂ (· / ·) (x.map Real.log) (y.map Real.log) := by
      cases x with
      | none => rfl
      | some r =>
        cases y with
        | none => rfl
        | some s => exact if_neg (not_or.2 ⟨positive r rfl, proper s rfl⟩)
    rw [result]
    refine gives_caseElse (gives_div_of_reals ?_ ?_ divisor)
    · exact computes_unary rfl (by decide) first fun r same => if_neg (positive r same)
    · exact computes_unary rfl (by decide) second fun s same =>
        if_neg fun least => proper s same (.inl least)

theorem gives_quotient_null (missing : x = none ∨ y = none) :
    row.Gives (left / right.nullIf 0) none := by
  obtain ⟨z, quotient, shape⟩ :=
    exists_gives_div first (gives_nullIf_zero second) (nullIf_zero_ne_zero y)
  have null : z = none := by
    rcases missing with rfl | rfl
    · obtain rfl | ⟨m, n, ⟨⟩, -⟩ := shape
      rfl
    · obtain rfl | ⟨m, n, -, ⟨⟩, -⟩ := shape
      exact Option.map₂_none_right _ _
  rwa [null] at quotient

end

theorem gives_power_zero (first : row.Gives left (some 0)) (second : row.Gives right y) :
    row.Gives (.ite (right.lt 0) .null (.call "POWER" [left, right])) (y.bind (powerAt 0)) := by
  refine gives_ite (tests_lt second gives_zero) (fun negative => ?_) fun other => ?_
  · obtain ⟨s, _, rfl, ⟨⟩, less⟩ := relation_eq_true.1 negative
    rw [Option.bind_some, powerAt, if_pos (.inl ⟨rfl, less⟩)]
    exact gives_null
  · have inside : ∀ r s, some (0 : ℝ) = some r → y = some s →
        ¬(r = 0 ∧ s < 0 ∨ r < 0 ∧ s ≠ ⌊s⌋) := by
      rintro r s ⟨⟩ same (⟨-, less⟩ | ⟨less, -⟩)
      · exact other (relation_eq_true.2 ⟨s, 0, same, rfl, less⟩)
      · exact lt_irrefl _ less
    have result : y.bind (powerAt 0) = Option.map₂ (· ^ ·) (some (0 : ℝ)) y := by
      cases y with
      | none => rfl
      | some s =>
        have size : s * Real.log |(0 : ℝ)| = 0 := by rw [abs_zero, Real.log_zero, mul_zero]
        rw [Option.bind_some, powerAt, if_neg (inside 0 s rfl rfl), size, inRange,
          if_neg (by norm_num), if_neg (by norm_num), Option.map₂_some_some]
    rw [result]
    exact gives_power first second inside

theorem gives_powerOf (first : row.Gives left x) (second : row.Gives right y) :
    row.Gives (Call.powerOf left right) (x.bind fun r => y.bind (powerAt r)) := by
  refine gives_case (tests_eq first gives_zero) (fun isZero => ?_) fun notZero => ?_
  · obtain ⟨r, s, rfl, ⟨⟩, rfl⟩ := relation_eq_true.1 isZero
    exact gives_power_zero first second
  -- The base has a logarithm from here on, and a null base has a null one.
  have nonzero : x ≠ some 0 := fun same => notZero (relation_eq_true.2 ⟨0, 0, same, rfl, rfl⟩)
  have magnitude := gives_magnitude first second nonzero
  obtain ⟨truth, test, fractional⟩ := exists_tests_fractional first second
  refine gives_case test (fun holds => ?_) fun fails => ?_
  · obtain ⟨r, s, rfl, rfl, both⟩ := fractional.1 holds
    rw [Option.bind_some, Option.bind_some, powerAt, if_pos (.inr both)]
    exact gives_null
  have inside : ∀ r s, x = some r → y = some s → ¬(r = 0 ∧ s < 0 ∨ r < 0 ∧ s ≠ ⌊s⌋) := by
    rintro r s same same' (⟨rfl, -⟩ | both)
    · exact nonzero same
    · exact fails (fractional.2 ⟨r, s, same, same', both⟩)
  have both : Option.map₂ (fun r s => s * Real.log |r|) x y = none ↔
      Option.map₂ (· ^ ·) x y = none := by
    rw [Option.map₂_eq_none_iff, Option.map₂_eq_none_iff]
  have ranged := gives_inRange magnitude both fun _ => gives_power first second inside
  have result : ((Option.map₂ (fun r s => s * Real.log |r|) x y).bind fun m =>
      (Option.map₂ (· ^ ·) x y).bind (inRange m)) = x.bind fun r => y.bind (powerAt r) := by
    cases x with
    | none => rfl
    | some r =>
      cases y with
      | none => rfl
      | some s => exact (if_neg (inside r s rfl rfl)).symm
  rwa [result] at ranged

theorem exists_quotient (first : row.Gives left (some p)) (second : row.Gives right (some q)) :
    ∃ z, row.Gives (left / right.nullIf 0) z ∧ IsQuotient p q z := by
  obtain ⟨z, quotient, shape⟩ :=
    exists_gives_div first (gives_nullIf_zero second) (nullIf_zero_ne_zero _)
  refine ⟨z, quotient, ?_⟩
  by_cases zero : q = 0
  · rw [if_pos (congrArg some zero)] at shape
    obtain rfl | ⟨m, n, -, ⟨⟩, -⟩ := shape
    exact zero
  · rw [if_neg fun same => zero (Option.some.inj same)] at shape
    obtain rfl | ⟨m, n, ⟨⟩, ⟨⟩, rfl⟩ := shape
    · exact ⟨zero, .inl rfl⟩
    · exact ⟨zero, .inr ⟨m, n, rfl, rfl, rfl⟩⟩

theorem exists_multipleOf (other : rounding ≠ "COALESCE")
    (named : call rounding = Quantity.unary fun r => some (g r)) (first : row.Gives left x)
    (second : row.Gives right y) :
    ∃ z, row.Gives (Call.multipleOf rounding left right) z ∧ IsMultiple g x y z := by
  have rounded : ∀ {z}, row.Gives (left / right.nullIf 0) z →
      row.Gives (.call rounding [left / right.nullIf 0]) (z.map g) := fun quotient =>
    gives_ofReal (computes_unary named other quotient fun _ _ => rfl)
  by_cases missing : x = none ∨ y = none
  · refine ⟨_, gives_mul (rounded (gives_quotient_null first second missing)) second, ?_⟩
    rcases missing with rfl | rfl
    · rfl
    · cases x <;> rfl
  · obtain ⟨p, rfl⟩ := Option.ne_none_iff_exists'.1 (not_or.1 missing).1
    obtain ⟨q, rfl⟩ := Option.ne_none_iff_exists'.1 (not_or.1 missing).2
    obtain ⟨z, quotient, shape⟩ := exists_quotient first second
    refine ⟨_, gives_mul (rounded quotient) second, z, shape, ?_⟩
    cases z <;> rfl

theorem gives_remainder (other : function ≠ "COALESCE")
    (named : call function = Quantity.binary remainder?) (first : row.Gives left (some p))
    (second : row.Gives right (if some q = some 0 then none else some q)) :
    row.Gives (.call function [left, right]) (remainder? p q) := by
  have inside : ∀ r s, some p = some r → (if some q = some 0 then none else some q) = some s →
      remainder? r s = some (remainder r s) := by
    intro r s _ same
    refine if_neg ?_
    rintro rfl
    exact nullIf_zero_ne_zero (some q) same
  have result : Option.map₂ remainder (some p) (if some q = some 0 then none else some q) =
      remainder? p q := by
    rw [remainder?, if_congr Option.some_inj rfl rfl]
    split <;> rfl
  rw [← result]
  exact gives_ofReal (computes_binary named other first second inside)

theorem gives_cast_numeric (first : row.Gives left x) : row.Gives (left.cast .numeric) x := by
  obtain ⟨a, value, is⟩ := first
  refine ⟨a, .cast value (if_pos ?_), is⟩
  rw [is.isNull, is.number?]
  cases x <;> rfl

theorem gives_presence (first : row.Gives left x) :
    row.Gives (Call.presence left) (some (if x = none then 0 else 1)) := by
  obtain ⟨a, value, is⟩ := first
  have test : row.Tests left.isNull (some x.isNone) := by
    refine ⟨_, .isNull value, ?_⟩
    rw [← is.isNull]
    exact row.holds?_ofTruth _
  refine gives_ite test (fun null => ?_) fun given => ?_
  · rw [if_pos (Option.isNone_iff_eq_none.1 (Option.some.inj null))]
    exact gives_zero
  · rw [if_neg fun null => given (congrArg some (Option.isNone_iff_eq_none.2 null))]
    exact gives_one

end RealRow

end SheetSql
