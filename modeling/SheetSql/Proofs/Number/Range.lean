import Mathlib.Algebra.Order.Field.Basic
import Mathlib.Data.Rat.Floor
import Mathlib.Tactic.Linarith
import SheetSql.Number.Double
import SheetSql.Proofs.Meaning.Spelled
import SheetSql.Proofs.Moment.IsoParts

namespace SheetSql

/-! Numbers of bounded length, which a double can hold. -/

/-- Zero, or a magnitude from `10 ^ -299` to below `10 ^ 299`. -/
def IsModerate (q : ℚ) : Prop :=
  q = 0 ∨ (10 : ℚ) ^ (-299 : ℤ) ≤ |q| ∧ |q| < (10 : ℚ) ^ (299 : ℤ)

theorem Decimal.abs_value (decimal : Decimal) :
    |decimal.value| = decimal.digits * (10 : ℚ) ^ decimal.exponent := by
  have scale : (0 : ℚ) < 10 ^ decimal.exponent := zpow_pos (by norm_num) _
  rw [Decimal.value, abs_mul, abs_mul, Nat.abs_cast, abs_of_pos scale]
  cases decimal.negative <;> simp

theorem Decimal.value_eq_zero_iff (decimal : Decimal) :
    decimal.value = 0 ↔ decimal.digits = 0 := by
  have scale : (10 : ℚ) ^ decimal.exponent ≠ 0 := zpow_ne_zero _ (by norm_num)
  rw [← abs_eq_zero, decimal.abs_value, mul_eq_zero, or_iff_left scale, Nat.cast_eq_zero]

namespace Written

theorem abs_exponent_le {power : Option Power} (few : ∀ p ∈ power, p.digits.length ≤ 2) :
    |exponent power| ≤ 99 := by
  cases power with
  | none => decide
  | some power =>
    have small := Format.natOf_lt_of_isDigits power.isDigits
    have bound : 10 ^ power.digits.length ≤ 10 ^ 2 :=
      Nat.pow_le_pow_right (by decide) (few power rfl)
    rw [exponent, Power.value, abs_le]
    split <;> omega

/-- The digits bound a number from above, and its last place bounds it from below. -/
theorem IsShort.isModerate {number : Written} (short : number.IsShort) :
    IsModerate number.decimal.value := by
  obtain ⟨fewWhole, fewFraction, fewPower⟩ := short
  by_cases zero : number.decimal.digits = 0
  · exact .inl ((Decimal.value_eq_zero_iff _).2 zero)
  have power := abs_le.1 (abs_exponent_le fewPower)
  have exponent : number.decimal.exponent =
      exponent number.power - (number.fraction.getD []).length := rfl
  have size : number.decimal.digits <
      10 ^ (number.whole.length + (number.fraction.getD []).length) := by
    have digits : Decimal.isDigits (number.whole ++ number.fraction.getD []) = true := by
      rw [Decimal.isDigits, List.all_append]
      exact Bool.and_eq_true_iff.2 ⟨number.isWhole, number.isFraction⟩
    have small := Format.natOf_lt_of_isDigits digits
    rwa [List.length_append] at small
  have scale : (0 : ℚ) < 10 ^ number.decimal.exponent := zpow_pos (by norm_num) _
  refine .inr ⟨?_, ?_⟩ <;> rw [Decimal.abs_value]
  · calc (10 : ℚ) ^ (-299 : ℤ) ≤ 10 ^ number.decimal.exponent :=
          zpow_le_zpow_right₀ (by norm_num) (by omega)
      _ ≤ number.decimal.digits * 10 ^ number.decimal.exponent :=
          le_mul_of_one_le_left scale.le (by exact_mod_cast Nat.one_le_iff_ne_zero.2 zero)
  · calc (number.decimal.digits : ℚ) * 10 ^ number.decimal.exponent
        < 10 ^ (number.whole.length + (number.fraction.getD []).length) *
            10 ^ number.decimal.exponent :=
          mul_lt_mul_of_pos_right (by exact_mod_cast size) scale
      _ = 10 ^ (((number.whole.length + (number.fraction.getD []).length : Nat) : ℤ) +
            number.decimal.exponent) := by rw [zpow_add₀ (by norm_num), zpow_natCast]
      _ ≤ 10 ^ (299 : ℤ) := zpow_le_zpow_right₀ (by norm_num) (by omega)

end Written

namespace Double

variable {num den : Nat}

theorem mul_pow2_le_iff (positive : 0 < den) (e : ℤ) :
    den * pow2 e.toNat ≤ num * pow2 (-e).toNat ↔ (2 : ℚ) ^ e ≤ num / den := by
  have cast : ∀ n, ((pow2 n : Nat) : ℚ) = 2 ^ n := fun n => by simp [pow2]
  rw [le_div_iff₀ (by exact_mod_cast positive), ← Nat.cast_le (α := ℚ), Nat.cast_mul,
    Nat.cast_mul, cast, cast, mul_comm]
  obtain ⟨n, rfl | rfl⟩ := e.eq_nat_or_neg
  · simp
  · rw [zpow_neg, inv_mul_le_iff₀ (zpow_pos (by norm_num) _), mul_comm (2 ^ (n : ℤ))]
    simp

theorem pow_log2Ratio_le (filled : num ≠ 0) (positive : 0 < den) :
    (2 : ℚ) ^ log2Ratio num den ≤ num / den := by
  unfold log2Ratio
  dsimp only
  split
  · next holds => exact (mul_pow2_le_iff positive _).1 holds
  · have below : (2 : ℚ) ^ num.log2 ≤ num := by exact_mod_cast Nat.log2_self_le filled
    have above : (den : ℚ) ≤ 2 ^ (den.log2 + 1) := by exact_mod_cast Nat.lt_log2_self.le
    rw [le_div_iff₀ (by exact_mod_cast positive)]
    calc (2 : ℚ) ^ ((num.log2 : ℤ) - den.log2 - 1) * den
        ≤ 2 ^ ((num.log2 : ℤ) - den.log2 - 1) * 2 ^ (den.log2 + 1) :=
          mul_le_mul_of_nonneg_left above (zpow_pos (by norm_num) _).le
      _ = 2 ^ num.log2 := by
          rw [← zpow_natCast, ← zpow_natCast, ← zpow_add₀ (by norm_num)]
          congr 1
          push_cast
          ring
      _ ≤ num := below

theorem roundHalfEven_pos (positive : 0 < den) (large : den ≤ num) :
    0 < roundHalfEven num den := by
  have quotient : 0 < num / den := Nat.div_pos large positive
  unfold roundHalfEven
  dsimp only
  split_ifs <;> omega

theorem ten_pow_lt : (10 : ℚ) ^ (299 : ℤ) < 2 ^ (994 : ℤ) := by
  have powers : 10 ^ 299 < 2 ^ 994 := by decide +kernel
  exact_mod_cast powers

theorem nearest_of_moderate (negative : Bool) (positive : 0 < den)
    (least : (10 : ℚ) ^ (-299 : ℤ) ≤ num / den) (most : (num : ℚ) / den < 10 ^ (299 : ℤ)) :
    ∃ significand exponent, nearest negative num den = .finite negative significand exponent ∧
      significand ≠ 0 := by
  have filled : num ≠ 0 := by
    rintro rfl
    rw [Nat.cast_zero, zero_div] at least
    exact absurd least (not_le.2 (zpow_pos (by norm_num) _))
  have ratio := pow_log2Ratio_le filled positive
  have top : log2Ratio num den < 994 := by
    rw [← zpow_lt_zpow_iff_right₀ (one_lt_two (α := ℚ))]
    exact ratio.trans_lt (most.trans ten_pow_lt)
  have reached : (2 : ℚ) ^ max (log2Ratio num den - 52) minExponent ≤ num / den := by
    rcases max_choice (log2Ratio num den - 52) minExponent with same | same <;> rw [same]
    · exact (zpow_le_zpow_right₀ one_le_two (by omega)).trans ratio
    · refine le_trans ?_ least
      rw [minExponent, zpow_neg, zpow_neg]
      exact inv_anti₀ (zpow_pos (by norm_num) _)
        (ten_pow_lt.le.trans (zpow_le_zpow_right₀ one_le_two (by decide)))
  have low : max (log2Ratio num den - 52) minExponent < maxExponent := by
    rw [minExponent, maxExponent]
    omega
  unfold nearest
  rw [if_neg filled]
  dsimp only
  generalize max (log2Ratio num den - 52) minExponent = exponent at low reached ⊢
  have counts : 0 < roundHalfEven (num * pow2 (-exponent).toNat) (den * pow2 exponent.toNat) :=
    roundHalfEven_pos (Nat.mul_pos positive (Nat.two_pow_pos _))
      ((mul_pow2_le_iff positive _).2 reached)
  split
  · exact ⟨_, _, if_neg (by dsimp only; omega), (Nat.two_pow_pos 52).ne'⟩
  · exact ⟨_, _, if_neg (by dsimp only; omega), counts.ne'⟩

/-- The digits of a decimal and its exponent tell its magnitude. -/
theorem pow_le_abs_value {decimal : Decimal} (filled : decimal.digits ≠ 0) :
    let size : ℤ := (Nat.toDigits 10 decimal.digits).length + decimal.exponent
    (10 : ℚ) ^ (size - 1) ≤ |decimal.value| ∧ |decimal.value| < (10 : ℚ) ^ size := by
  have scale : (0 : ℚ) < 10 ^ decimal.exponent := zpow_pos (by norm_num) _
  have count := List.length_pos_iff.2 (Nat.toDigits_ne_nil (n := decimal.digits) (b := 10))
  have least : 10 ^ ((Nat.toDigits 10 decimal.digits).length - 1) ≤ decimal.digits := by
    by_cases one : (Nat.toDigits 10 decimal.digits).length = 1
    · rw [one]
      exact Nat.one_le_iff_ne_zero.2 filled
    · rw [← Nat.not_lt, ← Nat.length_toDigits_le_iff (by decide) (by omega)]
      omega
  have most : decimal.digits < 10 ^ (Nat.toDigits 10 decimal.digits).length :=
    (Nat.length_toDigits_le_iff (by decide) count).1 le_rfl
  dsimp only
  generalize (Nat.toDigits 10 decimal.digits).length = n at count least most ⊢
  rw [Decimal.abs_value, add_sub_right_comm, zpow_add₀ (by norm_num), zpow_add₀ (by norm_num),
    ← Nat.cast_one, ← Nat.cast_sub count, zpow_natCast, zpow_natCast]
  exact ⟨mul_le_mul_of_nonneg_right (by exact_mod_cast least) scale.le,
    mul_lt_mul_of_pos_right (by exact_mod_cast most) scale⟩

theorem ratio_eq_abs_value (decimal : Decimal) :
    ((decimal.digits * pow10 decimal.exponent.toNat : Nat) : ℚ) /
      (pow10 (-decimal.exponent).toNat : Nat) = |decimal.value| := by
  rw [Decimal.abs_value]
  obtain ⟨n, same | same⟩ := decimal.exponent.eq_nat_or_neg <;> rw [same] <;>
    simp [pow10, div_eq_mul_inv]

theorem ofDecimal_of_isModerate {decimal : Decimal} (moderate : IsModerate decimal.value) :
    ∃ significand exponent, ofDecimal decimal = .finite decimal.negative significand exponent ∧
      (significand = 0 ↔ decimal.value = 0) := by
  rw [Decimal.value_eq_zero_iff]
  by_cases zero : decimal.digits = 0
  · exact ⟨0, minExponent, by rw [ofDecimal, if_pos zero]; rfl, by simp [zero]⟩
  obtain ⟨least, most⟩ := moderate.resolve_left (mt (Decimal.value_eq_zero_iff _).1 zero)
  obtain ⟨reached, below⟩ := pow_le_abs_value zero
  have ten : (1 : ℚ) < 10 := by norm_num
  have high := (zpow_lt_zpow_iff_right₀ ten).1 (reached.trans_lt most)
  have low := (zpow_lt_zpow_iff_right₀ ten).1 (least.trans_lt below)
  rw [ofDecimal, if_neg zero, if_neg (by omega), if_neg (by omega)]
  rw [← ratio_eq_abs_value] at least most
  obtain ⟨significand, exponent, found, filled⟩ := nearest_of_moderate decimal.negative
    (Nat.pow_pos (by decide)) least most
  exact ⟨significand, exponent, found, iff_of_false filled zero⟩

end Double

end SheetSql
