import Mathlib.Analysis.SpecialFunctions.Log.Base
import Mathlib.Analysis.SpecialFunctions.Pow.Real
import Mathlib.Data.Option.NAry
import SheetSql.Proofs.Meaning.Arithmetic
import SheetSql.Proofs.Meaning.Loose

namespace SheetSql

/-! Numbers that need not be rational. -/

inductive Quantity where
  | value (scalar : Value)
  | real (x : ℝ)

namespace Quantity

open Classical

abbrev null : Quantity := .value .null

def isNull : Quantity → Bool
  | .value scalar => decide (scalar = .null)
  | .real _ => false

def int? : Quantity → Option Int
  | .value scalar => scalar.int?
  | .real _ => none

noncomputable def number? : Quantity → Option ℝ
  | .value scalar => scalar.number?.map Rat.cast
  | .real x => some x

def scalar? : Quantity → Option Value
  | .value scalar => some scalar
  | .real _ => none

def ofReal? (x : Option ℝ) : Quantity := x.elim .null .real

/-- Whether a quantity stands for a number, or is null where there is none. -/
def Is (a : Quantity) : Option ℝ → Prop
  | none => a = .null
  | some x => a.number? = some x

noncomputable def relation (p : ℝ → ℝ → Prop) : Option ℝ → Option ℝ → Option Bool :=
  Option.map₂ fun x y => decide (p x y)

noncomputable def compare (p : ℝ → ℝ → Prop) (a b : Quantity) : Option (Option Bool) :=
  if a.isNull || b.isNull then some none
  else do return some (decide (p (← a.number?) (← b.number?)))

noncomputable def equal? : Quantity → Quantity → Option (Option Bool)
  | .value a, .value b => a.equal? b
  | a, b => a.compare (· = ·) b

noncomputable def arithmetic (onInts : Int → Int → Int) (onReals : ℝ → ℝ → ℝ) (a b : Quantity) :
    Option Quantity :=
  if a.isNull || b.isNull then some .null
  else
    match a.int?, b.int? with
    | some m, some n => some (.value (.int (onInts m n)))
    | _, _ => do return .real (onReals (← a.number?) (← b.number?))

noncomputable def divide (a b : Quantity) : Option Quantity :=
  if b.number? = some 0 then none else a.arithmetic Int.tdiv (· / ·) b

noncomputable def sqrt? (x : ℝ) : Option ℝ := if x < 0 then none else some √x

noncomputable def log? (x : ℝ) : Option ℝ := if x ≤ 0 then none else some (Real.log x)

/-- Above 709 the result may be too great for a double. -/
noncomputable def exp? (x : ℝ) : Option ℝ := if 709 < x then none else some (Real.exp x)

noncomputable def power? (x y : ℝ) : Option ℝ :=
  if x = 0 ∧ y < 0 ∨ x < 0 ∧ y ≠ ⌊y⌋ then none else some (x ^ y)

noncomputable def remainder (x y : ℝ) : ℝ :=
  x - y * (if 0 ≤ x / y then ⌊x / y⌋ else ⌈x / y⌉)

noncomputable def remainder? (x y : ℝ) : Option ℝ := if y = 0 then none else some (remainder x y)

/-- A value by its size as a power of e. A great one is missing, and a small one counts as zero. -/
noncomputable def inRange (exponent value : ℝ) : Option ℝ :=
  if 709 < exponent then none else if exponent < -700 then some 0 else some value

noncomputable def expAt (x : ℝ) : Option ℝ := inRange x (Real.exp x)

noncomputable def logAt (x base : ℝ) : Option ℝ :=
  if x ≤ 0 ∨ base ≤ 0 ∨ base = 1 then none else some (Real.logb base x)

/-- A power. The logarithm of zero counts as zero here, so that a power of zero is in range. -/
noncomputable def powerAt (base exponent : ℝ) : Option ℝ :=
  if base = 0 ∧ exponent < 0 ∨ base < 0 ∧ exponent ≠ ⌊exponent⌋ then none
  else inRange (exponent * Real.log |base|) (base ^ exponent)

noncomputable def unary (f : ℝ → Option ℝ) : List Quantity → Option Quantity
  | [a] => if a.isNull then some .null else do return .real (← f (← a.number?))
  | _ => none

noncomputable def binary (f : ℝ → ℝ → Option ℝ) : List Quantity → Option Quantity
  | [a, b] =>
    if a.isNull || b.isNull then some .null
    else do return .real (← f (← a.number?) (← b.number?))
  | _ => none

noncomputable def nullIf : List Quantity → Option Quantity
  | [a, b] => do return if (← a.equal? b) = some true then .null else a
  | _ => none

def applyScalars (function : String) (args : List Quantity) : Option Quantity := do
  return .value (← Value.apply function (← args.mapM scalar?))

def typeOf : List Quantity → Option Quantity
  | [.real _] => some (.value (.text "real".toList))
  | args => applyScalars "typeof" args

noncomputable def call (function : String) : List Quantity → Option Quantity :=
  match function with
  | "SQRT" => unary sqrt?
  | "LN" => unary log?
  | "EXP" => unary exp?
  | "POWER" => binary power?
  | "MOD" | "mod" => binary remainder?
  | "ABS" => unary fun x => some |x|
  | "FLOOR" => unary fun x => some ⌊x⌋
  | "CEIL" => unary fun x => some ⌈x⌉
  | "NULLIF" => nullIf
  | "typeof" => typeOf
  | function => applyScalars function

theorem is_ofReal? (x : Option ℝ) : (ofReal? x).Is x := by
  cases x <;> rfl

theorem int?_ofReal? (x : Option ℝ) : (ofReal? x).int? = none := by
  cases x <;> rfl

theorem is_ofNumber (q : Option ℚ) : (Quantity.value (.ofNumber q)).Is (q.map Rat.cast) := by
  cases q <;> rfl

section

variable {a b : Quantity} {x y : Option ℝ}

theorem Is.isNull (is : a.Is x) : a.isNull = x.isNone := by
  cases x with
  | none =>
    rw [show a = .null from is]
    rfl
  | some r =>
    cases a with
    | real _ => rfl
    | value scalar =>
      refine decide_eq_false ?_
      rintro rfl
      cases is

theorem Is.number? (is : a.Is x) : a.number? = x := by
  cases x with
  | none =>
    rw [show a = .null from is]
    rfl
  | some r => exact is

theorem number?_of_int? (whole : a.int? = some n) : a.number? = some (n : ℝ) := by
  cases a with
  | real _ => cases whole
  | value scalar =>
    rw [number?, Value.number?_of_int? whole, Option.map_some, Rat.cast_intCast]

theorem compare_eq (p : ℝ → ℝ → Prop) (first : a.Is x) (second : b.Is y) :
    a.compare p b = some (relation p x y) := by
  rw [compare, first.isNull, second.isNull, first.number?, second.number?]
  cases x <;> cases y <;> rfl

theorem equal?_value {u v : Value} (first : u.number? = some p) (second : v.number? = some q) :
    u.equal? v = some (some (p == q)) := by
  obtain rfl | ⟨m, rfl, rfl⟩ := Value.isNumber_of_number? first
  · obtain rfl | ⟨n, rfl, rfl⟩ := Value.isNumber_of_number? second <;> rfl
  · obtain rfl | ⟨n, rfl, rfl⟩ := Value.isNumber_of_number? second <;> rfl

theorem equal?_eq (first : a.Is x) (second : b.Is y) :
    a.equal? b = some (relation (· = ·) x y) := by
  cases a with
  | real r => exact compare_eq _ first second
  | value u =>
    cases b with
    | real r => exact compare_eq _ first second
    | value v =>
      cases x with
      | none =>
        cases first
        rfl
      | some r =>
        obtain ⟨p, number, rfl⟩ := Option.map_eq_some_iff.1 first
        cases y with
        | none =>
          cases second
          obtain rfl | ⟨m, rfl, rfl⟩ := Value.isNumber_of_number? number <;> rfl
        | some s =>
          obtain ⟨q, number', rfl⟩ := Option.map_eq_some_iff.1 second
          refine (equal?_value number number').trans ?_
          rw [relation, Option.map₂_some_some, Bool.beq_eq_decide_eq]
          simp only [Rat.cast_inj]

theorem arithmetic_cases (onInts : Int → Int → Int) (onReals : ℝ → ℝ → ℝ) (first : a.Is x)
    (second : b.Is y) :
    ∃ c, a.arithmetic onInts onReals b = some c ∧
      (c.Is (Option.map₂ onReals x y) ∨
        ∃ m n : Int, a.int? = some m ∧ b.int? = some n ∧ c = .value (.int (onInts m n))) := by
  rw [arithmetic, first.isNull, second.isNull]
  cases x with
  | none => exact ⟨.null, rfl, .inl rfl⟩
  | some r =>
    cases y with
    | none => exact ⟨.null, rfl, .inl rfl⟩
    | some s =>
      have reals : (do return Quantity.real (onReals (← a.number?) (← b.number?))) =
          some (.real (onReals r s)) := by
        rw [first.number?, second.number?]
        rfl
      rw [Option.isNone_some, Option.isNone_some, Bool.or_self, if_neg Bool.false_ne_true, reals]
      cases whole : a.int? with
      | none => exact ⟨_, rfl, .inl rfl⟩
      | some m =>
        cases whole' : b.int? with
        | none => exact ⟨_, rfl, .inl rfl⟩
        | some n => exact ⟨_, rfl, .inr ⟨m, n, rfl, rfl, rfl⟩⟩

theorem exists_arithmetic (agree : ∀ m n : Int, ((onInts m n : Int) : ℝ) = onReals m n)
    (first : a.Is x) (second : b.Is y) :
    ∃ c, a.arithmetic onInts onReals b = some c ∧ c.Is (Option.map₂ onReals x y) := by
  obtain ⟨c, result, is | ⟨m, n, whole, whole', rfl⟩⟩ :=
    arithmetic_cases onInts onReals first second
  · exact ⟨c, result, is⟩
  · refine ⟨_, result, ?_⟩
    rw [← first.number?, ← second.number?, number?_of_int? whole, number?_of_int? whole',
      Option.map₂_some_some, ← agree]
    exact number?_of_int? rfl

theorem exists_divide (first : a.Is x) (second : b.Is y) (nonzero : y ≠ some 0) :
    ∃ c z, a.divide b = some c ∧ c.Is z ∧
      (z = Option.map₂ (· / ·) x y ∨
        ∃ m n : Int, x = some (m : ℝ) ∧ y = some (n : ℝ) ∧ z = some ((m.tdiv n : Int) : ℝ)) := by
  rw [divide, second.number?, if_neg nonzero]
  obtain ⟨c, result, is | ⟨m, n, whole, whole', rfl⟩⟩ :=
    arithmetic_cases Int.tdiv (· / ·) first second
  · exact ⟨c, _, result, is, .inl rfl⟩
  · refine ⟨_, some (m.tdiv n : Int), result, number?_of_int? rfl, .inr ⟨m, n, ?_, ?_, rfl⟩⟩
    · rw [← first.number?, number?_of_int? whole]
    · rw [← second.number?, number?_of_int? whole']

theorem divide_ofReal? (nonzero : y ≠ some 0) :
    ∃ c, (ofReal? x).divide (ofReal? y) = some c ∧ c.Is (Option.map₂ (· / ·) x y) := by
  rw [divide, (is_ofReal? y).number?, if_neg nonzero]
  obtain ⟨c, result, is | ⟨m, n, whole, -⟩⟩ :=
    arithmetic_cases Int.tdiv (· / ·) (is_ofReal? x) (is_ofReal? y)
  · exact ⟨c, result, is⟩
  · rw [int?_ofReal?] at whole
    cases whole

theorem unary_eq (is : a.Is x) (inside : ∀ r, x = some r → f r = some (g r)) :
    unary f [a] = some (ofReal? (x.map g)) := by
  rw [unary, is.isNull, is.number?]
  cases x with
  | none => rfl
  | some r =>
    change (do return Quantity.real (← f r)) = _
    rw [inside r rfl]
    rfl

theorem binary_eq (first : a.Is x) (second : b.Is y)
    (inside : ∀ r s, x = some r → y = some s → f r s = some (g r s)) :
    binary f [a, b] = some (ofReal? (Option.map₂ g x y)) := by
  rw [binary, first.isNull, second.isNull, first.number?, second.number?]
  cases x with
  | none => rfl
  | some r =>
    cases y with
    | none => rfl
    | some s =>
      change (do return Quantity.real (← f r s)) = _
      rw [inside r s rfl rfl]
      rfl

theorem exists_nullIf (first : a.Is x) (second : b.Is y) :
    ∃ c, nullIf [a, b] = some c ∧ c.Is (if relation (· = ·) x y = some true then none else x) := by
  rw [nullIf, equal?_eq first second]
  by_cases same : relation (· = ·) x y = some true
  · refine ⟨.null, ?_, ?_⟩
    · change some (if relation (· = ·) x y = some true then Quantity.null else a) = _
      rw [if_pos same]
    · rw [if_pos same]
      rfl
  · refine ⟨a, ?_, ?_⟩
    · change some (if relation (· = ·) x y = some true then Quantity.null else a) = _
      rw [if_neg same]
    · rw [if_neg same]
      exact first

end

theorem mapM_scalar? (values : List Value) :
    (values.map Quantity.value).mapM scalar? = some values := by
  rw [List.mapM_map]
  exact List.mapM_pure.trans (congrArg some (List.map_id values))

theorem applyScalars_values (applied : Value.apply function values = some v) :
    applyScalars function (values.map .value) = some (.value v) := by
  rw [applyScalars, mapM_scalar?]
  change (do return Quantity.value (← Value.apply function values)) = _
  rw [applied]
  rfl

end Quantity

end SheetSql
