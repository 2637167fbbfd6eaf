import Mathlib.Algebra.BigOperators.Group.List.Basic
import Mathlib.Tactic.FieldSimp
import Mathlib.Tactic.NormNum
import SheetSql.Proofs.Meaning.Eval

namespace SheetSql

/-! Sums and quotients. -/

namespace Value

/-- Whether a value stands for a number, or is null where there is none. -/
def Denotes (v : Value) : Option ℚ → Prop
  | none => v = .null
  | some q => v.number? = some q

theorem arithmetic_add {a b : Value} (first : a.number? = some p) (second : b.number? = some q) :
    ∃ c, a.arithmetic (· + ·) (· + ·) b = some c ∧ c.number? = some (p + q) ∧
      c.int? = a.int?.bind fun m => b.int?.map (m + ·) := by
  cases a with
  | null | bool _ | text _ | other _ => cases first
  | int m =>
    cases first
    cases b with
    | null | bool _ | text _ | other _ => cases second
    | int n =>
      cases second
      exact ⟨.int (m + n), rfl, by rw [number?, Int.cast_add], rfl⟩
    | real r =>
      cases second
      exact ⟨.real (m + q), rfl, rfl, rfl⟩
  | real r =>
    cases first
    cases b with
    | null | bool _ | text _ | other _ => cases second
    | int n =>
      cases second
      exact ⟨.real (p + n), rfl, rfl, rfl⟩
    | real s =>
      cases second
      exact ⟨.real (p + q), rfl, rfl, rfl⟩

/-- Whether a value is the sum of others, and an integer if all of them are. -/
structure Adds (total : Value) (values : List Value) : Prop where
  number : total.number? = some (values.filterMap number?).sum
  whole : total.int? =
    if values.all fun v => v.int?.isSome then some (values.filterMap int?).sum else none

theorem Adds.single {v : Value} (number : v.number?.isSome = true) : v.Adds [v] := by
  obtain ⟨q, found⟩ := Option.isSome_iff_exists.1 number
  constructor
  · rw [List.filterMap_cons_some found, List.filterMap_nil, List.sum_singleton, found]
  · cases whole : v.int? with
    | none => simp [whole]
    | some n => simp [whole]

theorem Adds.concat {a v : Value} {seen : List Value} (adds : a.Adds seen)
    (number : v.number?.isSome = true) :
    ∃ c, a.arithmetic (· + ·) (· + ·) v = some c ∧ c.Adds (seen ++ [v]) := by
  obtain ⟨q, found⟩ := Option.isSome_iff_exists.1 number
  obtain ⟨c, sum, isNumber, isWhole⟩ := arithmetic_add adds.number found
  refine ⟨c, sum, ?_, ?_⟩
  · rw [isNumber, List.filterMap_append, List.sum_append, List.filterMap_cons_some found,
      List.filterMap_nil, List.sum_singleton]
  · rw [isWhole, adds.whole, List.all_append, List.filterMap_append, List.sum_append]
    cases whole : v.int? with
    | none => simp [whole]
    | some n => cases all : seen.all fun v => v.int?.isSome <;> simp [whole]

theorem Adds.foldlM {first : Value} {seen : List Value} (adds : first.Adds seen)
    {rest : List Value} (numbers : ∀ v ∈ rest, v.number?.isSome = true) :
    ∃ c, rest.foldlM (fun a v => a.arithmetic (· + ·) (· + ·) v) first = some c ∧
      c.Adds (seen ++ rest) := by
  induction rest generalizing first seen with
  | nil =>
    refine ⟨first, rfl, ?_⟩
    rw [List.append_nil]
    exact adds
  | cons v rest ih =>
    obtain ⟨next, sum, more⟩ := adds.concat (numbers v List.mem_cons_self)
    obtain ⟨c, total, all⟩ := ih more fun w member => numbers w (List.mem_cons_of_mem _ member)
    refine ⟨c, ?_, ?_⟩
    · rw [List.foldlM_cons, sum]
      exact total
    · rw [List.append_assoc, List.singleton_append] at all
      exact all

end Value

def ratio (p q : ℚ) : Option ℚ := if q = 0 then none else some (p / q)

theorem tdiv_eq_div_iff {m : Int} (divisor : n ≠ 0) : ((m.tdiv n : Int) : ℚ) = m / n ↔ n ∣ m := by
  have divisor' : (n : ℚ) ≠ 0 := Int.cast_ne_zero.2 divisor
  constructor
  · intro equal
    rw [eq_div_iff divisor'] at equal
    refine ⟨m.tdiv n, ?_⟩
    rw [Int.mul_comm]
    exact_mod_cast equal.symm
  · rintro ⟨k, rfl⟩
    rw [Int.mul_tdiv_cancel_left _ divisor, Int.cast_mul, mul_div_cancel_left₀ _ divisor']

namespace Value

theorem number?_of_int? {v : Value} (whole : v.int? = some n) : v.number? = some (n : ℚ) := by
  cases v with
  | int m =>
    cases whole
    rfl
  | null | bool _ | real _ | text _ | other _ => cases whole

theorem isNumber_of_number? {v : Value} (number : v.number? = some q) :
    v = .real q ∨ ∃ n : Int, v = .int n ∧ q = n := by
  cases v with
  | null | bool _ | text _ | other _ => cases number
  | real r =>
    cases number
    exact .inl rfl
  | int n =>
    cases number
    exact .inr ⟨n, rfl, rfl⟩

/-- A quotient is exact unless integers are divided of which the second is no divisor. -/
theorem denotes_divide {dialect : Dialect} {areIntegers : Bool} {a b : Value} {p q : ℚ}
    (first : a.number? = some p) (second : b.number? = some q) (divisor : q ≠ 0) :
    ∃ v, a.divide dialect areIntegers b = some v ∧
      (v.Denotes (some (p / q)) ↔ ¬∃ m n, a.int? = some m ∧ b.int? = some n ∧
        (dialect = .sqlite ∨ areIntegers = true) ∧ ¬n ∣ m) := by
  have given : ¬(a = .null ∨ b = .null) := by
    rintro (rfl | rfl)
    · cases first
    · cases second
  have nonzero : ¬b.number? = some 0 := by
    rw [second, Option.some.injEq]
    exact divisor
  unfold divide
  rw [if_neg given, if_neg nonzero]
  obtain rfl | ⟨m, rfl, rfl⟩ := isNumber_of_number? first
  · refine ⟨.real (p / q), ?_, iff_of_true rfl ?_⟩
    · obtain rfl | ⟨n, rfl, rfl⟩ := isNumber_of_number? second
      · rfl
      · rfl
    · rintro ⟨m, n, whole, -⟩
      cases whole
  obtain rfl | ⟨n, rfl, rfl⟩ := isNumber_of_number? second
  · refine ⟨.real (m / q), rfl, iff_of_true rfl ?_⟩
    rintro ⟨m, n, -, whole, -⟩
    cases whole
  dsimp only [int?]
  split
  · next cuts =>
      have divides : (Value.int (m.tdiv n)).Denotes (some ((m : ℚ) / n)) ↔ n ∣ m := by
        rw [← tdiv_eq_div_iff (Int.cast_ne_zero.1 divisor)]
        exact Option.some_inj
      refine ⟨.int (m.tdiv n), rfl, divides.trans ⟨?_, ?_⟩⟩
      · rintro divisible ⟨_, _, ⟨⟩, ⟨⟩, -, other⟩
        exact other divisible
      · intro none
        by_contra other
        exact none ⟨m, n, rfl, rfl, cuts, other⟩
  · next keeps =>
      refine ⟨.real (m / n), rfl, iff_of_true rfl ?_⟩
      rintro ⟨_, _, -, -, cuts, -⟩
      exact keeps cuts

end Value

section

variable {row : Row}

theorem eval_nullIf_zero {e : Expr} (value : e.eval row = some v) (number : v.number? = some q) :
    (e.nullIf 0).eval row = some (if q = 0 then .null else v) := by
  rw [Expr.nullIf, eval_call (by decide) (evalEach_cons value rfl)]
  have equal : v.equal? (.int 0) = some (some (q == 0)) := by
    obtain rfl | ⟨n, rfl, rfl⟩ := Value.isNumber_of_number? number
    · rfl
    · rfl
  have applied : Value.apply "NULLIF" [v, .int 0] =
      (v.equal? (.int 0)).bind fun equal => some (if equal = some true then .null else v) := rfl
  refine applied.trans ?_
  rw [equal]
  simp

theorem exists_of_evalEach_cons (each : evalEach row (e :: rest) = some values) :
    ∃ v vs, values = v :: vs ∧ e.eval row = some v ∧ evalEach row rest = some vs := by
  rw [evalEach] at each
  obtain ⟨v, value, others⟩ := Option.bind_eq_some_iff.1 each
  obtain ⟨vs, those, all⟩ := Option.bind_eq_some_iff.1 others
  exact ⟨v, vs, (Option.some.inj all).symm, value, those⟩

theorem eval_sum {items : List Expr} {values : List Value} (each : evalEach row items = some values)
    (filled : values ≠ []) (numbers : ∀ v ∈ values, v.number?.isSome = true) :
    ∃ c, (Expr.sequence .add items).eval row = some c ∧ c.Adds values := by
  cases items with
  | nil => exact absurd (Option.some.inj each).symm filled
  | cons first rest =>
    obtain ⟨v, vs, rfl, value, others⟩ := exists_of_evalEach_cons each
    have start := Value.Adds.single (numbers v List.mem_cons_self)
    cases rest with
    | nil =>
      cases others
      exact ⟨v, value, start⟩
    | cons second rest =>
      obtain ⟨c, total, adds⟩ := start.foldlM fun w member =>
        numbers w (List.mem_cons_of_mem _ member)
      refine ⟨c, ?_, adds⟩
      rw [Expr.sequence, Expr.eval, each]
      · exact total
      · intro item single
        cases single

theorem eval_quotient {left right : Expr} (dividend : left.eval row = some a)
    (divisor : right.eval row = some b) (first : a.number? = some p) (second : b.number? = some q) :
    ∃ v, (left / right.nullIf 0).eval row = some v ∧
      (v.Denotes (ratio p q) ↔ ¬∃ m n, a.int? = some m ∧ b.int? = some n ∧ n ≠ 0 ∧
        (row.dialect = .sqlite ∨ (left.isInteger row && (right.nullIf 0).isInteger row) = true) ∧
        ¬n ∣ m) := by
  have shape : (left / right.nullIf 0).eval row =
      a.divide row.dialect (left.isInteger row && (right.nullIf 0).isInteger row)
        (if q = 0 then .null else b) :=
    eval_binary .div dividend (eval_nullIf_zero divisor second)
  rw [shape, ratio]
  by_cases zero : q = 0
  · rw [if_pos zero, if_pos zero]
    refine ⟨.null, ?_, iff_of_true rfl ?_⟩
    · unfold Value.divide
      rw [if_pos (.inr rfl)]
    · rintro ⟨m, n, -, whole, nonzero, -⟩
      have number := Value.number?_of_int? whole
      rw [second, zero] at number
      exact nonzero (Int.cast_eq_zero.1 (Option.some.inj number).symm)
  · rw [if_neg zero, if_neg zero]
    obtain ⟨v, quotient, exactly⟩ := Value.denotes_divide first second zero
    refine ⟨v, quotient, exactly.trans (not_congr ?_)⟩
    constructor
    · rintro ⟨m, n, whole, whole', cuts, other⟩
      have number := Value.number?_of_int? whole'
      rw [second] at number
      refine ⟨m, n, whole, whole', ?_, cuts, other⟩
      rintro rfl
      exact zero ((Option.some.inj number).trans Int.cast_zero)
    · rintro ⟨m, n, whole, whole', -, cuts, other⟩
      exact ⟨m, n, whole, whole', cuts, other⟩

end

end SheetSql
