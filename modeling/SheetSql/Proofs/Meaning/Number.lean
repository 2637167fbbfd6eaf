import SheetSql.Coerce.Site
import SheetSql.Proofs.Meaning.Arithmetic
import SheetSql.Proofs.Meaning.Loose

namespace SheetSql

/-! The numbers of operands. -/

open Coerce

def Kind.isLoose : Kind → Bool
  | .text | .datetime | .unknown => true
  | .blank | .number | .boolean | .json => false

def Value.text? (shown : ℚ → List Char) (value : Value) : Option (List Char) :=
  match value.castText shown with
  | .text cs => some cs
  | _ => none

def Value.ofParts : Option Int → Option ℚ → Value
  | some n, _ => .int n
  | none, number => .ofNumber number

namespace Row

noncomputable def looseNumber? (row : Row) (value : Value) : Option ℚ :=
  match row.dialect, value.number? with
  | .sqlite, some q => some q
  | dialect, _ => (value.text? row.shown).bind (looseText? dialect)

/-- The number of an operand, if it has one. A truth value counts as one or zero. -/
noncomputable def numberOf (row : Row) (operand : Operand) : Option ℚ :=
  let value := row.fragment operand.sql
  match operand.kind with
  | .blank | .json => none
  | .number => value.number?
  | .boolean => (value.truth? row.dialect).join.map fun b => if b then 1 else 0
  | .text | .datetime | .unknown => row.looseNumber? value

def wholeOf (row : Row) (operand : Operand) : Option Int :=
  if row.dialect = .sqlite ∧ operand.kind.isLoose = true then (row.fragment operand.sql).int?
  else none

noncomputable def numeric (row : Row) (operand : Operand) : Value :=
  .ofParts (row.wholeOf operand) (row.numberOf operand)

/--
The value of an operand is one of its kind: a number or null, or a truth value or null. The other
kinds can have any value.
-/
def Holds (row : Row) (operand : Operand) : Prop :=
  let value := row.fragment operand.sql
  match operand.kind with
  | .number => value = .null ∨ value.number?.isSome = true
  | .boolean => (value.truth? row.dialect).isSome = true
  | .blank | .text | .datetime | .json | .unknown => True

end Row

section

variable {row : Row}

theorem isSome_number?_ofWritten (cs : List Char) (decimal : Decimal) :
    (Value.ofWritten cs decimal).number?.isSome = true := by
  unfold Value.ofWritten
  split <;> rfl

theorem fragment_ne_bool (sqlite : row.dialect = .sqlite) (sql : String) (b : Bool) :
    row.fragment sql ≠ .bool b := by
  unfold Row.fragment
  rw [sqlite]
  split
  · exact Value.noConfusion
  split
  · next decimal _ =>
      intro same
      have number := isSome_number?_ofWritten (Text.bare sql.toList) decimal
      rw [same] at number
      cases number
  · exact Value.noConfusion
  · exact Value.noConfusion
  · split
    · exact Value.noConfusion
    · next other => exact other b rfl

theorem numberOf_of_wholeOf (whole : row.wholeOf operand = some n) :
    row.numberOf operand = some (n : ℚ) := by
  unfold Row.wholeOf at whole
  split at whole
  · next both =>
      have loose : row.numberOf operand = row.looseNumber? (row.fragment operand.sql) := by
        unfold Row.numberOf
        cases kind : operand.kind with
        | text | datetime | unknown => rfl
        | blank | number | boolean | json =>
          rw [kind] at both
          exact absurd both.2 (by decide)
      rw [loose, Row.looseNumber?, both.1, Value.number?_of_int? whole]
  · cases whole

theorem int?_numeric (operand : Operand) : (row.numeric operand).int? = row.wholeOf operand := by
  unfold Row.numeric
  cases row.wholeOf operand with
  | some n => rfl
  | none => cases row.numberOf operand <;> rfl

theorem number?_numeric (operand : Operand) :
    (row.numeric operand).number? = row.numberOf operand := by
  unfold Row.numeric
  cases whole : row.wholeOf operand with
  | some n => exact (numberOf_of_wholeOf whole).symm
  | none => cases row.numberOf operand <;> rfl

theorem numeric_eq_null_iff (operand : Operand) :
    row.numeric operand = .null ↔ row.numberOf operand = none := by
  rw [← number?_numeric]
  unfold Row.numeric
  cases row.wholeOf operand with
  | some n => exact iff_of_false Value.noConfusion (Option.some_ne_none _)
  | none =>
    cases row.numberOf operand with
    | none => exact iff_of_true rfl rfl
    | some q => exact iff_of_false Value.noConfusion (Option.some_ne_none _)

theorem holds_of_literalKind? (found : literalKind? sql = some kind) :
    row.Holds ⟨sql, kind, true, .unknown, none⟩ := by
  unfold Row.Holds Row.fragment
  unfold literalKind? at found
  revert found
  dsimp only
  cases Sql.isNullLiteral sql with
  | true =>
    intro found
    cases found
    trivial
  | false =>
    cases Sql.numberLiteral? sql with
    | some decimal =>
      intro found
      cases found
      exact .inr (isSome_number?_ofWritten _ decimal)
    | none =>
      cases Sql.textLiteral? sql with
      | some content =>
        intro found
        cases found
        cases content.isEmpty <;> trivial
      | none =>
        cases Sql.boolLiteral? sql with
        | some b =>
          intro found
          cases found
          exact congrArg Option.isSome (truth?_ofTruth row.dialect (some b))
        | none =>
          intro found
          cases found

theorem classify_cases (job : Job) (sql : String) (hint : Option Hint) :
    (∃ kind, literalKind? sql = some kind ∧
        Operand.classify job sql hint = ⟨sql, kind, true, .unknown, none⟩) ∨
      (Operand.classify job sql hint).isLiteral = false := by
  unfold Operand.classify
  cases found : literalKind? sql with
  | some kind => exact .inl ⟨kind, rfl, rfl⟩
  | none =>
    right
    dsimp only
    split
    · rfl
    · split <;> rfl

theorem holds_classify (held : (Operand.classify job sql hint).isLiteral = false →
      row.Holds (.classify job sql hint)) : row.Holds (.classify job sql hint) := by
  obtain ⟨kind, found, operand⟩ | other := classify_cases job sql hint
  · rw [operand]
    exact holds_of_literalKind? found
  · exact held other

theorem eval_looseNumber {e : Expr} {v : Value} (value : e.eval row = some v)
    (stored : row.dialect = .sqlite → ∀ b, v ≠ .bool b) :
    (looseNumber row.dialect e).eval row =
      some (.ofParts (if row.dialect = .sqlite then v.int? else none) (row.looseNumber? v)) := by
  -- A null is apart, since there is no text of it.
  by_cases null : v = .null
  · rw [null] at value ⊢
    rw [eval_looseNumber_null value, Row.looseNumber?]
    cases row.dialect <;> rfl
  obtain ⟨cs, text⟩ : ∃ cs, v.castText row.shown = .text cs := by
    cases v with
    | null => exact absurd rfl null
    | bool _ | int _ | real _ | text _ | other _ => exact ⟨_, rfl⟩
  have shown : (e.cast .text).eval row = some (.text cs) :=
    (eval_cast .text value).trans (congrArg some text)
  have spelled : v.text? row.shown = some cs := by rw [Value.text?, text]
  unfold Row.looseNumber?
  rw [spelled]
  cases dialect : row.dialect with
  | postgres => exact eval_looseNumber_postgres dialect shown
  | sqlite =>
    cases number : v.number? with
    | some q =>
      have isNumber : v.number?.isSome = true := by rw [number]; rfl
      rw [eval_looseNumber_number value (stored dialect) isNumber]
      cases v with
      | int n => rfl
      | real r =>
        cases number
        rfl
      | null | bool _ | text _ | other _ => cases number
    | none =>
      have broken : v.int? = none := by
        cases v with
        | int n => cases number
        | null | bool _ | real _ | text _ | other _ => rfl
      rw [broken]
      exact eval_looseNumber_sqlite dialect value (stored dialect) number shown

theorem castDouble_of_number {v : Value} (held : v = .null ∨ v.number?.isSome = true)
    (dialect : Dialect) : v.castDouble dialect = some (.ofNumber v.number?) := by
  cases v with
  | null | int _ | real _ => rfl
  | bool _ | text _ | other _ =>
    rcases held with null | number
    · cases null
    · cases number

theorem eval_one : (Expr.number "1.0").eval row = some (.real 1) := by
  have value : (⟨false, 10, -1⟩ : Decimal).value = 1 := by norm_num [Decimal.value]
  rw [← value]
  rfl

theorem eval_zero : (Expr.number "0.0").eval row = some (.real 0) := by
  have value : (⟨false, 0, -1⟩ : Decimal).value = 0 := by norm_num [Decimal.value]
  rw [← value]
  rfl

theorem eval_truthNumber {e : Expr} {v : Value} {truth : Option Bool} (value : e.eval row = some v)
    (counts : v.truth? row.dialect = some truth) :
    (Expr.caseWhen [⟨e, .number "1.0"⟩, ⟨e.not, .number "0.0"⟩] none).eval row =
      some (.ofNumber (truth.map fun b => if b then 1 else 0)) := by
  have opposite : e.not.eval row = some (.ofTruth row.dialect (truth.map (!·))) := by
    rw [Expr.not, eval_unary .not value, Row.unary, counts]
    rfl
  rw [eval_caseWhen, evalBranches_of_truth value counts, evalBranches_cons opposite, eval_one,
    eval_zero]
  cases truth with
  | none => rfl
  | some b => cases b <;> rfl

theorem eval_toNumber (site : Site) (same : row.dialect = site.target.dialect) {operand : Operand}
    (single : operand.kind ≠ .json) (held : row.Holds operand) :
    ∃ e, site.toNumber operand = .ok e ∧ e.eval row = some (row.numeric operand) := by
  have value : operand.expr.eval row = some (row.fragment operand.sql) := rfl
  unfold Site.toNumber Row.numeric Row.wholeOf Row.numberOf
  unfold Row.Holds at held
  rw [← same]
  cases kind : operand.kind with
  | json => exact absurd kind single
  | blank =>
    refine ⟨_, rfl, ?_⟩
    rw [if_neg fun both => absurd both.2 (by decide)]
    rfl
  | number =>
    refine ⟨_, rfl, ?_⟩
    rw [if_neg fun both => absurd both.2 (by decide)]
    rw [kind] at held
    exact (eval_cast .double value).trans (castDouble_of_number held row.dialect)
  | boolean =>
    rw [kind] at held
    obtain ⟨truth, counts⟩ := Option.isSome_iff_exists.1 held
    refine ⟨_, rfl, ?_⟩
    rw [if_neg fun both => absurd both.2 (by decide)]
    dsimp only
    rw [counts]
    exact eval_truthNumber value counts
  | text | datetime | unknown =>
    refine ⟨_, rfl, ?_⟩
    refine (eval_looseNumber value fun sqlite => fragment_ne_bool sqlite _).trans ?_
    simp only [Kind.isLoose, and_true]

end

end SheetSql
