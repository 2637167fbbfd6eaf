import SheetSql.Proofs.Denotation.Extremum
import SheetSql.Proofs.Denotation.Toolkit

namespace SheetSql

/-!
Roundings to decimal places and to even and odd numbers, on both dialects and in exact arithmetic.
-/

open SignType (sign)

namespace Value

variable {a b : Value} {p q : ℚ}

theorem arithmetic_real (first : a.number? = some p) (second : b.number? = some q)
    (real : a.int? = none ∨ b.int? = none) :
    a.arithmetic onInts onReals b = some (.real (onReals p q)) := by
  obtain rfl | ⟨m, rfl, rfl⟩ := isNumber_of_number? first
  · obtain rfl | ⟨n, rfl, rfl⟩ := isNumber_of_number? second <;> rfl
  · obtain rfl | ⟨n, rfl, rfl⟩ := isNumber_of_number? second
    · rfl
    · simp [int?] at real

theorem divide_real (dialect : Dialect) (areIntegers : Bool) (first : a.number? = some p)
    (second : b.number? = some q) (filled : q ≠ 0) (real : a.int? = none ∨ b.int? = none) :
    a.divide dialect areIntegers b = some (.real (p / q)) := by
  have divisor : b.number? ≠ some 0 := by simpa [second] using filled
  unfold divide
  rw [if_neg (by simp [ne_null_of_number? first, ne_null_of_number? second]), if_neg divisor]
  obtain rfl | ⟨m, rfl, rfl⟩ := isNumber_of_number? first
  · obtain rfl | ⟨n, rfl, rfl⟩ := isNumber_of_number? second <;> rfl
  · obtain rfl | ⟨n, rfl, rfl⟩ := isNumber_of_number? second
    · rfl
    · simp [int?] at real

end Value

namespace Machine

variable {machine : Machine} {engine : Interpretation Value} [underlies : machine.Underlies engine]
  {evaluation : Evaluation engine} {left right : Expr} {a b : Value} {p q : ℚ}

include underlies

theorem gives_real (op : BinOp)
    (opens : machine.toRow.binary op true a b = a.arithmetic onInts onReals b)
    (first : evaluation.Gives left a) (second : evaluation.Gives right b)
    (isFirst : a.number? = some p) (isSecond : b.number? = some q)
    (real : a.int? = none ∨ b.int? = none) :
    evaluation.Gives (.binary left op right) (.real (onReals p q)) := by
  refine gives_operator first second ?_
  change (machine.toRow.binary op true a b).bind Value.small? = _
  rw [opens, Value.arithmetic_real isFirst isSecond real]
  rfl

section

variable (first : evaluation.Gives left a) (second : evaluation.Gives right b)
  (isFirst : a.number? = some p) (isSecond : b.number? = some q)

include first second isFirst isSecond

theorem gives_quotient (filled : q ≠ 0) (real : a.int? = none ∨ b.int? = none) :
    evaluation.Gives (left / right) (.real (p / q)) := by
  refine gives_operator first second ?_
  change (a.divide _ _ b).bind Value.small? = _
  rw [Value.divide_real _ _ isFirst isSecond filled real]
  rfl

theorem gives_lt : evaluation.Gives (left.lt right) (engine.bool (decide (p < q))) := by
  refine gives_operator first second ?_
  change ((a.less? b).map _).bind Value.small? = _
  rw [Value.less?_of_number? isFirst isSecond, Underlies.bool]
  exact Value.small?_ofBool _ _

theorem gives_ge : evaluation.Gives (left.ge right) (engine.bool (decide (q ≤ p))) := by
  have negated : (!decide (p < q)) = decide (q ≤ p) := by
    rw [← decide_not]
    exact decide_eq_decide.2 not_lt
  refine gives_operator first second ?_
  change ((a.less? b).map _).bind Value.small? = _
  rw [Value.less?_of_number? isFirst isSecond, Underlies.bool, ← negated]
  exact Value.small?_ofBool _ _

end

end Machine

namespace Toolkit

variable {kit : Toolkit} {evaluation : Evaluation kit.interpretation} {e places : Expr} {x : ℚ}
  {d : Int}

theorem number?_sign (x : ℚ) :
    (Value.int (if x < 0 then -1 else 1)).number? = some (if x < 0 then -1 else 1) := by
  change some (((if x < 0 then -1 else 1 : Int) : ℚ)) = _
  push_cast
  rfl

section

variable (value : evaluation.Gives e (.real x))

include value

theorem gives_signOf : evaluation.Gives (Call.signOf e) (.int (if x < 0 then -1 else 1)) := by
  have test : evaluation.Gives (e.lt 0) (kit.interpretation.bool (decide (x < 0))) :=
    Machine.gives_lt value (Machine.gives_nat 0) rfl rfl
  refine Evaluation.gives_ite test ?_ ?_
  · intro negative
    rw [if_pos negative]
    exact Machine.gives_int (-1)
  · intro nonneg
    rw [if_neg nonneg]
    exact Machine.gives_nat 1

theorem gives_abs : evaluation.Gives (.call "ABS" [e]) (.real |x|) :=
  gives_apply (by decide) (.cons value .nil) rfl

theorem gives_ceil : evaluation.Gives (.call "CEIL" [e]) (.real ⌈x⌉) :=
  gives_apply (by decide) (.cons value .nil) rfl

theorem gives_evenOf :
    evaluation.Gives (Call.evenOf e)
      (.real ((if x < 0 then -1 else 1) * (⌈|x| / 2⌉ * 2))) := by
  have two : evaluation.Gives 2 (.int 2) := Machine.gives_nat 2
  have half := Machine.gives_quotient (gives_abs value) two rfl rfl two_ne_zero (.inl rfl)
  have magnitude : evaluation.Gives _ (.real (⌈|x| / 2⌉ * 2)) :=
    Machine.gives_real .mul rfl (gives_ceil half) two rfl rfl (.inl rfl)
  exact Machine.gives_real .mul rfl (gives_signOf value) magnitude (number?_sign x) rfl (.inr rfl)

theorem gives_oddOf :
    evaluation.Gives (Call.oddOf e)
      (.real ((if x < 0 then -1 else 1) * (⌈(|x| + 1) / 2⌉ * 2 - 1))) := by
  have one : evaluation.Gives 1 (.int 1) := Machine.gives_nat 1
  have two : evaluation.Gives 2 (.int 2) := Machine.gives_nat 2
  have more : evaluation.Gives _ (.real (|x| + 1)) :=
    Machine.gives_real .add rfl (gives_abs value) one rfl rfl (.inl rfl)
  have half := Machine.gives_quotient more two rfl rfl two_ne_zero (.inl rfl)
  have double : evaluation.Gives _ (.real (⌈(|x| + 1) / 2⌉ * 2)) :=
    Machine.gives_real .mul rfl (gives_ceil half) two rfl rfl (.inl rfl)
  have magnitude : evaluation.Gives _ (.real (⌈(|x| + 1) / 2⌉ * 2 - 1)) :=
    Machine.gives_real .sub rfl double one rfl rfl (.inl rfl)
  exact Machine.gives_real .mul rfl (gives_signOf value) magnitude (number?_sign x) rfl (.inr rfl)

end

theorem gives_numeric (dialect : kit.dialect = .postgres) {a : Value} (number : a.number? = some x)
    (value : evaluation.Gives e a) : evaluation.Gives (e.cast .numeric) (.real x) := by
  refine Evaluation.gives_cast value ?_
  change kit.cast .numeric a = some (.real x)
  unfold cast
  rw [dialect]
  obtain rfl | ⟨n, rfl, rfl⟩ := Value.isNumber_of_number? number <;> rfl

theorem gives_castReal (value : evaluation.Gives e (.real x)) :
    evaluation.Gives (e.cast .double) (.real x) :=
  Evaluation.gives_cast value rfl

theorem gives_power (first : evaluation.Gives base (.real 10))
    (second : evaluation.Gives places (.int d)) :
    evaluation.Gives (.call "POWER" [base, places]) (.real (10 ^ d)) := by
  refine gives_apply (by decide) (.cons first (.cons second .nil)) ?_
  change (if (10 : ℚ) = 0 then none else some (Value.real (10 ^ d))) = _
  exact if_neg (by norm_num)

theorem gives_ten : evaluation.Gives (.number "10.0") (.real 10) := by
  have ten : Value.ofWritten "10.0".toList ⟨false, 100, -1⟩ = .real 10 := by
    change Value.real (Decimal.value ⟨false, 100, -1⟩) = _
    norm_num [Decimal.value]
  exact (evaluation.number "10.0").trans (congrArg some ten)

theorem gives_roundOf (small : IsSmall (-d)) (value : evaluation.Gives e (.real x))
    (number : evaluation.Gives places (.int d)) :
    evaluation.Gives (Call.roundOf kit.dialect e places)
      (.real (nearest (x * 10 ^ d) / 10 ^ d)) := by
  cases dialect : kit.dialect with
  | postgres =>
    have exact := gives_numeric dialect rfl value
    refine gives_castReal (gives_apply (by decide) (.cons exact (.cons number .nil)) ?_)
    change some (Value.real (roundTo (if kit.dialect = .sqlite then max 0 d else d) x)) = _
    rw [dialect, if_neg (by decide)]
    rfl
  | sqlite =>
    have test : evaluation.Gives (places.ge 0) (kit.interpretation.bool (decide (0 ≤ d))) := by
      rw [← decide_eq_decide.2 (Int.cast_le (R := ℚ))]
      exact Machine.gives_ge number (Machine.gives_nat 0) rfl rfl
    refine Evaluation.gives_ite test ?_ ?_
    · intro nonneg
      refine gives_apply (by decide) (.cons value (.cons number .nil)) ?_
      change some (Value.real (roundTo (if kit.dialect = .sqlite then max 0 d else d) x)) = _
      rw [if_pos dialect, max_eq_right nonneg]
      rfl
    · intro _
      -- A division by the power of the negative places is a product with that of the places.
      have scale := gives_power gives_ten (Machine.gives_neg number small)
      have filled : (10 : ℚ) ^ (-d) ≠ 0 := zpow_ne_zero _ (by norm_num)
      have scaled := Machine.gives_quotient value scale rfl rfl filled (.inl rfl)
      have rounded : evaluation.Gives (.call "ROUND" _) (.real (nearest _)) :=
        gives_apply (by decide) (.cons scaled .nil) rfl
      have result := Machine.gives_real .mul rfl rounded scale rfl rfl (.inl rfl)
      rw [zpow_neg, div_inv_eq_mul] at result
      exact result

theorem gives_sign (value : evaluation.Gives e (.real x)) :
    ∃ v : Value, evaluation.Gives (.call "SIGN" [e]) v ∧ v.number? = some (sign x : ℚ) := by
  refine ⟨_, gives_apply (by decide) (.cons value .nil) rfl, ?_⟩
  split
  · exact congrArg some (SignType.intCast_cast _)
  · rfl

/-- The magnitude is brought to the grid in the direction of `rounding`, which `bring` is. -/
theorem gives_roundMagnitude {rounding : String} {bring : ℚ → Int}
    (applies : ∀ q, kit.apply rounding [.real q] = some (.real (bring q)))
    (other : rounding ≠ "COALESCE") (value : evaluation.Gives e (.real x))
    (number : evaluation.Gives places (.int d)) :
    evaluation.Gives (Call.roundMagnitude kit.dialect rounding e places)
      (.real (sign x * bring (|x| * 10 ^ d) / 10 ^ d)) := by
  have scaled : ∀ {e scale : Expr}, evaluation.Gives e (.real x) →
      evaluation.Gives scale (.real (10 ^ d)) →
      evaluation.Gives (.call "SIGN" [e] * .call rounding [.call "ABS" [e] * scale] / scale)
        (.real (sign x * bring (|x| * 10 ^ d) / 10 ^ d)) := by
    intro e scale value power
    obtain ⟨v, signed, isSign⟩ := gives_sign value
    have product : evaluation.Gives _ (.real (|x| * 10 ^ d)) :=
      Machine.gives_real .mul rfl (gives_abs value) power rfl rfl (.inl rfl)
    have brought := gives_apply other (.cons product .nil) (applies _)
    have magnitude : evaluation.Gives _ (.real (sign x * bring (|x| * 10 ^ d))) :=
      Machine.gives_real .mul rfl signed brought isSign rfl (.inr rfl)
    exact Machine.gives_quotient magnitude power rfl rfl (zpow_ne_zero _ (by norm_num)) (.inl rfl)
  cases dialect : kit.dialect with
  | postgres =>
    have ten : evaluation.Gives ((10 : Expr).cast .numeric) (.real 10) :=
      gives_numeric dialect rfl (Machine.gives_nat 10)
    exact gives_castReal (scaled (gives_numeric dialect rfl value) (gives_power ten number))
  | sqlite => exact scaled value (gives_power gives_ten number)

end Toolkit

def placesOf (p : Option ℚ) : Int := max (-15) (min (truncated (p.getD 0)) 15)

theorem isSmall_neg_placesOf (p : Option ℚ) : IsSmall (-placesOf p) := by
  unfold IsSmall placesOf
  omega

/-- What the operations are to make of a number, by their definitions. -/
def IsRounding (operation : Operation) (places : Int) (x r : ℚ) : Prop :=
  match operation with
  | .round => IsNearest (10 ^ (-places)) x r
  | .roundUp => IsOuter (10 ^ (-places)) x r
  | .roundDown => IsInner (10 ^ (-places)) x r
  | .even => IsReached Even x r
  | .odd => IsReached Odd x r
  | _ => False

/-- What the operations make of a number, by its floor and its ceiling. -/
def rounded (operation : Operation) (places : Int) (x : ℚ) : ℚ :=
  match operation with
  | .round => nearest (x * 10 ^ places) / 10 ^ places
  | .roundUp => sign x * ⌈|x| * 10 ^ places⌉ / 10 ^ places
  | .roundDown => sign x * ⌊|x| * 10 ^ places⌋ / 10 ^ places
  | .even => (if x < 0 then -1 else 1) * (⌈|x| / 2⌉ * 2)
  | .odd => (if x < 0 then -1 else 1) * (⌈(|x| + 1) / 2⌉ * 2 - 1)
  | _ => 0

def roundingOperations : List Operation := [.round, .roundUp, .roundDown, .even, .odd]

theorem isRounding_iff (listed : operation ∈ roundingOperations) (places : Int) (x r : ℚ) :
    IsRounding operation places x r ↔ r = rounded operation places x := by
  have positive : (0 : ℚ) < 10 ^ places := zpow_pos (by norm_num) places
  have unit : (10 : ℚ) ^ (-places) = (10 ^ places)⁻¹ := zpow_neg _ _
  simp only [roundingOperations, List.mem_cons, List.not_mem_nil, or_false] at listed
  rcases listed with rfl | rfl | rfl | rfl | rfl
  · rw [IsRounding, unit]
    exact ⟨fun is => is.unique (isNearest_nearest positive x), by
      rintro rfl; exact isNearest_nearest positive x⟩
  · rw [IsRounding, unit]
    exact ⟨fun is => is.unique (isOuter_ceil positive x), by rintro rfl; exact isOuter_ceil positive x⟩
  · rw [IsRounding, unit]
    exact ⟨fun is => is.unique (isInner_floor positive x), by rintro rfl; exact isInner_floor positive x⟩
  · exact ⟨fun is => is.unique (isReached_even x), by rintro rfl; exact isReached_even x⟩
  · exact ⟨fun is => is.unique (isReached_odd x), by rintro rfl; exact isReached_odd x⟩

namespace Call

variable {call : Call} {kit : Toolkit} {evaluation : Evaluation kit.interpretation} {x : ℚ}
  {p : Option ℚ}

theorem yields_places (dialect : kit.dialect = call.dialect)
    (given : call.has 1 = true → ∃ v : Value, v.Denotes p ∧ evaluation.Yields (call.number 1) v)
    (absent : call.has 1 = false → p = none) :
    evaluation.Yields call.places (.int (placesOf p)) := by
  unfold places
  cases has : call.has 1 with
  | true =>
    obtain ⟨v, denotes, e, found, value⟩ := given has
    have filled := Evaluation.gives_coalesce (.cons value (.cons (Machine.gives_int 0) .nil))
    refine ⟨kit.dialect.boundedInt (e.orElse 0) (-15) 15, ?_, ?_⟩
    · rw [numberOrZero, Site.toNumberOrZero, ← number, found, dialect]
      rfl
    · refine Machine.gives_boundedInt (-15) 15 (x := some (p.getD 0)) ?_ ?_ filled
        (Machine.number?_orElse denotes 0)
      · rw [truncated_bounded]
        rfl
      · unfold IsSmall placesOf
        omega
  | false =>
    rw [absent has]
    exact ⟨0, rfl, Machine.gives_int 0⟩

theorem yields_rounded (listed : call.operation ∈ roundingOperations)
    (dialect : kit.dialect = call.dialect) (value : evaluation.Yields (call.number 0) (.real x))
    (places : evaluation.Yields call.places (.int (placesOf p))) :
    evaluation.Yields call.compile (.real (rounded call.operation (placesOf p) x)) := by
  obtain ⟨e, first, value⟩ := value
  obtain ⟨n, second, number⟩ := places
  have small := isSmall_neg_placesOf p
  have ceil := Toolkit.gives_roundMagnitude (fun _ => rfl) (by decide : "CEIL" ≠ _) value number
  have floor := Toolkit.gives_roundMagnitude (fun _ => rfl) (by decide : "FLOOR" ≠ _) value number
  simp only [roundingOperations, List.mem_cons, List.not_mem_nil, or_false] at listed
  unfold compile own? shared
  rcases listed with named | named | named | named | named <;> rw [named] <;> dsimp only
  · exact ⟨_, by rw [round, first, second, ← dialect]; rfl, Toolkit.gives_roundOf small value number⟩
  · exact ⟨_, by rw [roundUp, first, second, ← dialect]; rfl, ceil⟩
  · exact ⟨_, by rw [roundDown, first, second, ← dialect]; rfl, floor⟩
  · exact ⟨_, by rw [even, first]; rfl, Toolkit.gives_evenOf value⟩
  · exact ⟨_, by rw [odd, first]; rfl, Toolkit.gives_oddOf value⟩

end Call

/--
The rounding operations follow their definitions on both dialects, whatever number or null the
places are. For each number and each number of places exactly one number meets the definition, and
it is the value of both expressions.
-/
theorem rounding_follows_definitions (call : Call) (placement : Dialect → Placement)
    (listed : call.operation ∈ roundingOperations)
    (checked : Target.check call.operation call.args call.hints = .ok ())
    {kit : Dialect → Toolkit} (engines : ∀ dialect, (kit dialect).dialect = dialect)
    (evaluation : ∀ dialect, Evaluation (kit dialect).interpretation) {x : ℚ} {p : Option ℚ}
    (number : ∀ dialect, (evaluation dialect).Yields
      ((call.on ⟨dialect, placement dialect⟩).number 0) (.real x))
    (given : call.has 1 = true → ∀ dialect, ∃ v : Value, v.Denotes p ∧
      (evaluation dialect).Yields ((call.on ⟨dialect, placement dialect⟩).number 1) v)
    (absent : call.has 1 = false → p = none) :
    ∃ r, (∀ s, IsRounding call.operation (placesOf p) x s ↔ s = r) ∧
      ∀ dialect, (evaluation dialect).Writes (call.on ⟨dialect, placement dialect⟩) (.real r) := by
  refine ⟨rounded call.operation (placesOf p) x, isRounding_iff listed (placesOf p) x, ?_⟩
  intro dialect
  have places : (evaluation dialect).Yields (call.on ⟨dialect, placement dialect⟩).places _ :=
    Call.yields_places (engines dialect) (fun has => given has dialect) absent
  exact Evaluation.writes_of_yields checked
    (Call.yields_rounded listed (engines dialect) (number dialect) places)

def debt : Call :=
  { job := .ofCatalog (.ofFields []) ⟨0, 0⟩, target := ⟨.sqlite, .select⟩, operation := .round,
    args := ["-250.0", "-2.9"], hints := [] }

theorem rounding_follows_definitions_debt :
    let evaluation := fun dialect => Evaluation.scalar (Toolkit.blank dialect).interpretation
    Target.check .round debt.args [] = .ok () ∧
      (∀ dialect, (evaluation dialect).Yields ((debt.on ⟨dialect, .select⟩).number 0)
        (.real (-250))) ∧
      (∀ dialect, (evaluation dialect).Yields ((debt.on ⟨dialect, .select⟩).number 1)
        (.real (-29 / 10))) ∧
      ∀ dialect, (evaluation dialect).Writes (debt.on ⟨dialect, .select⟩) (.real (-300)) := by
  intro evaluation
  have checked : Target.check .round debt.args [] = .ok () := rfl
  have number : ∀ dialect, (evaluation dialect).Yields ((debt.on ⟨dialect, .select⟩).number 0)
      (.real (-250)) := by
    intro dialect
    have written : (Toolkit.blank dialect).fragment "-250.0" = .real (-250) := by
      change Value.real (Decimal.value ⟨true, 2500, -1⟩) = _
      norm_num [Decimal.value]
    exact ⟨_, by cases dialect <;> rfl, Machine.gives_double written rfl rfl⟩
  have places : ∀ dialect, (evaluation dialect).Yields ((debt.on ⟨dialect, .select⟩).number 1)
      (.real (-29 / 10)) := by
    intro dialect
    have written : (Toolkit.blank dialect).fragment "-2.9" = .real (-29 / 10) := by
      change Value.real (Decimal.value ⟨true, 29, -1⟩) = _
      norm_num [Decimal.value]
    exact ⟨_, by cases dialect <;> rfl, Machine.gives_double written rfl rfl⟩
  have two : placesOf (some (-29 / 10)) = -2 := by
    have whole : truncated (-29 / 10) = -2 := by
      rw [truncated, if_neg (by norm_num)]
      exact Int.ceil_eq_iff.2 (by norm_num)
    rw [placesOf, Option.getD_some, whole]
    rfl
  have away : rounded .round (-2) (-250) = -300 := by
    have tie : nearest (-250 * 10 ^ (-2 : Int)) = -3 := by
      rw [nearest, if_neg (by norm_num)]
      exact Int.ceil_eq_iff.2 (by norm_num)
    rw [rounded, tie]
    norm_num
  obtain ⟨r, only, both⟩ := rounding_follows_definitions debt (fun _ => .select) (by decide)
    checked (fun _ => rfl) evaluation (p := some (-29 / 10)) number
    (fun _ dialect => ⟨.real (-29 / 10), rfl, places dialect⟩) (fun absent => by cases absent)
  have result : -300 = r := by
    refine (only _).1 ((isRounding_iff (by decide) _ _ _).2 ?_)
    rw [two]
    exact away.symm
  exact ⟨checked, number, places, result ▸ both⟩

end SheetSql
