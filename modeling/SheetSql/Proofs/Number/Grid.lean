import Mathlib.Algebra.Order.Field.Basic
import Mathlib.Algebra.Order.Floor.Ring
import Mathlib.Data.Rat.Floor
import Mathlib.Data.Sign.Basic
import Mathlib.Tactic.Linarith

namespace SheetSql

/-! Numbers brought to a grid. -/

open SignType (sign)

/-- The integer nearest to a number, and of two of them the one further from zero. -/
def nearest (q : ℚ) : Int := if 0 ≤ q then ⌊q + 1 / 2⌋ else ⌈q - 1 / 2⌉

def multiples (unit : ℚ) : Set ℚ := {q | ∃ k : ℤ, q = k * unit}

/-- The multiple of a unit nearest to a number, and of two of them the one further from zero. -/
structure IsNearest (unit x r : ℚ) : Prop where
  multiple : r ∈ multiples unit
  closest : ∀ s ∈ multiples unit, |x - r| ≤ |x - s|
  away : ∀ s ∈ multiples unit, |x - s| = |x - r| → |s| ≤ |r|

/-- The multiple of a unit next to a number on the side away from zero. -/
structure IsOuter (unit x r : ℚ) : Prop where
  sameSign : 0 ≤ x * r
  magnitude : IsLeast {m | m ∈ multiples unit ∧ |x| ≤ m} |r|

/-- The multiple of a unit next to a number on the side of zero. -/
structure IsInner (unit x r : ℚ) : Prop where
  sameSign : 0 ≤ x * r
  magnitude : IsGreatest {m | m ∈ multiples unit ∧ m ≤ |x|} |r|

/-- The least natural number of a kind that reaches the magnitude of a number, with its sign. -/
def IsReached (kind : ℕ → Prop) (x r : ℚ) : Prop :=
  ∃ n : ℕ, IsLeast {m : ℕ | kind m ∧ |x| ≤ m} n ∧ r = if x < 0 then -(n : ℚ) else n

variable {unit x r s : ℚ}

theorem zero_mem_multiples (unit : ℚ) : 0 ∈ multiples unit := ⟨0, by simp⟩

theorem eq_of_abs_eq_of_sameSign (same : |r| = |s|) (first : 0 ≤ x * r) (second : 0 ≤ x * s)
    (zero : x = 0 → r = 0) : r = s := by
  rcases abs_eq_abs.1 same with equal | opposite
  · exact equal
  · subst opposite
    have product : x * s = 0 := by linarith
    rcases mul_eq_zero.1 product with none | none
    · linarith [zero none]
    · rw [none, neg_zero]

theorem IsOuter.unique (first : IsOuter unit x r) (second : IsOuter unit x s) : r = s := by
  refine eq_of_abs_eq_of_sameSign (first.magnitude.unique second.magnitude) first.sameSign
    second.sameSign fun none => ?_
  subst none
  have least := first.magnitude.2 ⟨zero_mem_multiples unit, by simp⟩
  exact abs_eq_zero.1 (le_antisymm least (abs_nonneg r))

theorem IsInner.unique (first : IsInner unit x r) (second : IsInner unit x s) : r = s := by
  refine eq_of_abs_eq_of_sameSign (first.magnitude.unique second.magnitude) first.sameSign
    second.sameSign fun none => ?_
  subst none
  have most : |r| ≤ |0| := first.magnitude.1.2
  exact abs_eq_zero.1 (le_antisymm (by simpa using most) (abs_nonneg r))

theorem IsNearest.unique (first : IsNearest unit x r) (second : IsNearest unit x s) : r = s := by
  have distance : |x - r| = |x - s| :=
    le_antisymm (first.closest s second.multiple) (second.closest r first.multiple)
  have same : |r| = |s| :=
    le_antisymm (second.away r first.multiple distance) (first.away s second.multiple distance.symm)
  rcases abs_eq_abs.1 distance with equal | opposite
  · linarith
  rcases abs_eq_abs.1 same with equal | opposite'
  · exact equal
  · -- Two opposite points are equally far from zero only, which is on the grid itself.
    have centre : x = 0 := by linarith
    subst centre
    have none : |0 - r| ≤ |0 - 0| := first.closest 0 (zero_mem_multiples unit)
    have zero : r = 0 := by simpa using none
    linarith

theorem IsReached.unique (first : IsReached kind x r) (second : IsReached kind x s) : r = s := by
  obtain ⟨m, least, rfl⟩ := first
  obtain ⟨n, isLeast, rfl⟩ := second
  rw [least.unique isLeast]

theorem le_nearest_sub (q : ℚ) : |q - nearest q| ≤ 1 / 2 := by
  unfold nearest
  split
  · have low := Int.floor_le (q + 1 / 2)
    have high := Int.lt_floor_add_one (q + 1 / 2)
    exact abs_le.2 ⟨by linarith, by linarith⟩
  · have low := Int.le_ceil (q - 1 / 2)
    have high := Int.ceil_lt_add_one (q - 1 / 2)
    exact abs_le.2 ⟨by linarith, by linarith⟩

theorem half_le_sub_of_ne (other : k ≠ nearest q) : 1 / 2 ≤ |q - k| := by
  have apart : (1 : ℚ) ≤ |((nearest q - k : ℤ) : ℚ)| := by
    have := Int.one_le_abs (sub_ne_zero.2 other.symm)
    exact_mod_cast this
  have through : |((nearest q - k : ℤ) : ℚ)| ≤ |q - nearest q| + |q - k| := by
    have := abs_sub_le (nearest q : ℚ) q k
    rw [abs_sub_comm (nearest q : ℚ) q] at this
    push_cast
    exact this
  have within := le_nearest_sub q
  linarith

theorem abs_nearest_of_half (half : |q - nearest q| = 1 / 2) : |(nearest q : ℚ)| = |q| + 1 / 2 := by
  rcases (abs_eq one_half_pos.le).1 half with below | above
  · by_cases nonneg : 0 ≤ q
    · rw [nearest, if_pos nonneg] at below
      have high := Int.lt_floor_add_one (q + 1 / 2)
      linarith
    · rw [abs_of_neg (not_le.1 nonneg), abs_of_neg] <;> linarith
  · by_cases nonneg : 0 ≤ q
    · rw [abs_of_nonneg nonneg, abs_of_pos] <;> linarith
    · rw [nearest, if_neg nonneg] at above
      have high := Int.ceil_lt_add_one (q - 1 / 2)
      linarith

/-- Between two integers, the nearest one is further from zero. -/
theorem abs_le_nearest {q : ℚ} {k : ℤ} (tie : |q - k| = |q - nearest q|) : |k| ≤ |nearest q| := by
  by_cases same : k = nearest q
  · rw [same]
  have half : |q - k| = 1 / 2 :=
    le_antisymm (tie.trans_le (le_nearest_sub q)) (half_le_sub_of_ne same)
  have magnitude : |(k : ℚ)| ≤ |(nearest q : ℚ)| :=
    calc |(k : ℚ)| ≤ |q| + |q - k| := by simpa using abs_sub q (q - k)
      _ = |(nearest q : ℚ)| := by rw [half, abs_nearest_of_half (tie.symm.trans half)]
  exact_mod_cast magnitude

theorem isNearest_nearest {scale : ℚ} (positive : 0 < scale) (x : ℚ) :
    IsNearest scale⁻¹ x (nearest (x * scale) / scale) := by
  have distance : ∀ k : ℤ, |x - k * scale⁻¹| = |x * scale - k| / scale := by
    intro k
    rw [← abs_of_pos positive, ← abs_div, abs_of_pos positive]
    congr 1
    field_simp
  have point : (nearest (x * scale) : ℚ) / scale = nearest (x * scale) * scale⁻¹ := div_eq_mul_inv _ _
  refine ⟨⟨_, point⟩, ?_, ?_⟩
  · rintro _ ⟨k, rfl⟩
    rw [point, distance, distance]
    refine div_le_div_of_nonneg_right ?_ positive.le
    by_cases same : k = nearest (x * scale)
    · rw [same]
    · exact (le_nearest_sub _).trans (half_le_sub_of_ne same)
  · rintro _ ⟨k, rfl⟩ tie
    rw [point, distance, distance, div_left_inj' positive.ne'] at tie
    rw [point, abs_mul, abs_mul]
    refine mul_le_mul_of_nonneg_right ?_ (abs_nonneg _)
    exact_mod_cast abs_le_nearest tie

theorem abs_sign_mul {m : ℚ} (nonneg : 0 ≤ m) (zero : x = 0 → m = 0) : |sign x * m| = m := by
  rcases lt_trichotomy x 0 with negative | none | positive
  · rw [sign_neg negative]
    simp [abs_of_nonneg nonneg]
  · simp [zero none]
  · rw [sign_pos positive]
    simp [abs_of_nonneg nonneg]

theorem mul_sign_mul_nonneg (nonneg : 0 ≤ m) : 0 ≤ x * (sign x * m) := by
  rw [← mul_assoc, self_mul_sign]
  exact mul_nonneg (abs_nonneg x) nonneg

theorem isOuter_ceil (positive : 0 < scale) (x : ℚ) :
    IsOuter scale⁻¹ x (sign x * ⌈|x| * scale⌉ / scale) := by
  have scaled : 0 ≤ |x| * scale := mul_nonneg (abs_nonneg x) positive.le
  have nonneg : 0 ≤ (⌈|x| * scale⌉ : ℚ) / scale :=
    div_nonneg (Int.cast_nonneg (Int.ceil_nonneg scaled)) positive.le
  rw [mul_div_assoc]
  refine ⟨mul_sign_mul_nonneg nonneg, ?_⟩
  rw [abs_sign_mul nonneg (by rintro rfl; simp)]
  refine ⟨⟨⟨_, div_eq_mul_inv _ _⟩, (le_div_iff₀ positive).2 (Int.le_ceil _)⟩, ?_⟩
  rintro _ ⟨⟨k, rfl⟩, reached⟩
  rw [div_eq_mul_inv]
  refine mul_le_mul_of_nonneg_right (Int.cast_le.2 (Int.ceil_le.2 ?_)) (inv_pos.2 positive).le
  exact (le_mul_inv_iff₀ positive).1 reached

theorem isInner_floor (positive : 0 < scale) (x : ℚ) :
    IsInner scale⁻¹ x (sign x * ⌊|x| * scale⌋ / scale) := by
  have scaled : 0 ≤ |x| * scale := mul_nonneg (abs_nonneg x) positive.le
  have nonneg : 0 ≤ (⌊|x| * scale⌋ : ℚ) / scale :=
    div_nonneg (Int.cast_nonneg (Int.floor_nonneg.2 scaled)) positive.le
  rw [mul_div_assoc]
  refine ⟨mul_sign_mul_nonneg nonneg, ?_⟩
  rw [abs_sign_mul nonneg (by rintro rfl; simp)]
  refine ⟨⟨⟨_, div_eq_mul_inv _ _⟩, (div_le_iff₀ positive).2 (Int.floor_le _)⟩, ?_⟩
  rintro _ ⟨⟨k, rfl⟩, within⟩
  rw [div_eq_mul_inv]
  refine mul_le_mul_of_nonneg_right (Int.cast_le.2 (Int.le_floor.2 ?_)) (inv_pos.2 positive).le
  exact (mul_inv_le_iff₀ positive).1 within

theorem isReached_even (x : ℚ) :
    IsReached Even x ((if x < 0 then -1 else 1) * (⌈|x| / 2⌉ * 2)) := by
  have nonneg : 0 ≤ |x| / 2 := by positivity
  refine ⟨⌈|x| / 2⌉₊ * 2, ⟨⟨even_two.mul_left _, ?_⟩, ?_⟩, ?_⟩
  · have reached := Nat.le_ceil (|x| / 2)
    push_cast
    linarith
  · rintro _ ⟨⟨k, rfl⟩, reached⟩
    have half : ⌈|x| / 2⌉₊ ≤ k := by
      refine Nat.ceil_le.2 ?_
      push_cast at reached
      linarith
    omega
  · push_cast
    rw [natCast_ceil_eq_intCast_ceil nonneg, ite_mul, neg_one_mul, one_mul]

theorem isReached_odd (x : ℚ) :
    IsReached Odd x ((if x < 0 then -1 else 1) * (⌈(|x| + 1) / 2⌉ * 2 - 1)) := by
  have positive : 0 < (|x| + 1) / 2 := by positivity
  have some : 1 ≤ ⌈(|x| + 1) / 2⌉₊ * 2 := by
    have := Nat.ceil_pos.2 positive
    omega
  refine ⟨⌈(|x| + 1) / 2⌉₊ * 2 - 1, ⟨⟨⟨⌈(|x| + 1) / 2⌉₊ - 1, by omega⟩, ?_⟩, ?_⟩, ?_⟩
  · have reached := Nat.le_ceil ((|x| + 1) / 2)
    push_cast [some]
    linarith
  · rintro _ ⟨⟨k, rfl⟩, reached⟩
    have half : ⌈(|x| + 1) / 2⌉₊ ≤ k + 1 := by
      refine Nat.ceil_le.2 ?_
      push_cast at reached ⊢
      linarith
    omega
  · push_cast [some]
    rw [natCast_ceil_eq_intCast_ceil positive.le, ite_mul, neg_one_mul, one_mul]

end SheetSql
