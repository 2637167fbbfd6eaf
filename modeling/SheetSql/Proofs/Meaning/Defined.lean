import SheetSql.Proofs.Meaning.Division
import SheetSql.Proofs.Meaning.Domain
import SheetSql.Proofs.Meaning.RealNumber

namespace SheetSql

/-! Calls of functions that are not defined everywhere. -/

open Quantity

def partialOperations : List Operation :=
  [.sqrt, .exp, .power, .log, .divide, .mod, .modulo, .average, .ceiling, .floor]

namespace RealRow

/-- Whether a call can be evaluated in a row: there is no JSON, and columns have their types. -/
structure Suits (row : RealRow) (call : Call) : Prop where
  dialect : row.dialect = call.dialect
  single : ∀ operand ∈ call.operands, operand.kind ≠ .json
  held : ∀ operand ∈ call.operands, operand.isLiteral = false → row.Holds operand

noncomputable def numberAt (row : RealRow) (call : Call) (i : Nat) (default : ℝ) : Option ℝ :=
  if call.has i then row.numberOf (call.operand i) else some default

namespace Suits

variable {row : RealRow} {call : Call} (suits : row.Suits call)
include suits

theorem toNumber (member : operand ∈ call.operands) :
    ∃ e, call.toNumber operand = .ok e ∧ row.Gives e (row.numberOf operand) := by
  refine gives_toNumber call.toSite suits.dialect (suits.single operand member) ?_
  have held := suits.held operand member
  obtain ⟨i, given, rfl⟩ := List.mem_mapIdx.1 member
  exact holds_classify held

theorem number (i : Nat) :
    ∃ e, call.number i = .ok e ∧ row.Gives e (row.numberOf (call.operand i)) := by
  by_cases given : i < call.args.length
  · exact suits.toNumber (operand_mem given)
  · have missing : call.operand i = ⟨"NULL", .blank, true, .unknown, none⟩ := by
      rw [Call.operand, Call.sqlAt, List.getElem?_eq_none (not_lt.1 given)]
      rfl
    rw [Call.number, missing]
    exact ⟨_, rfl, gives_null⟩

theorem numberOr (i : Nat) {default : Expr} {d : ℝ} (value : row.Gives default (some d)) :
    ∃ e, call.numberOr i default = .ok e ∧ row.Gives e (row.numberAt call i d) := by
  unfold Call.numberOr numberAt
  split
  · exact suits.number i
  · exact ⟨default, rfl, value⟩

theorem toNumberOrZero {operand : Operand} (member : operand ∈ call.operands) :
    ∃ e, call.toNumberOrZero operand = .ok e ∧
      row.Gives e (some ((row.numberOf operand).getD 0)) := by
  obtain ⟨e, coerced, value⟩ := suits.toNumber member
  refine ⟨e.orElse 0, ?_, gives_orElse_zero value⟩
  rw [Site.toNumberOrZero, coerced]
  rfl

theorem numberOrZero (i : Nat) :
    ∃ e, call.numberOrZero i = .ok e ∧
      row.Gives e (some ((row.numberOf (call.operand i)).getD 0)) := by
  obtain ⟨e, coerced, value⟩ := suits.number i
  refine ⟨e.orElse 0, ?_, gives_orElse_zero value⟩
  rw [Call.numberOrZero, Site.toNumberOrZero]
  rw [Call.number] at coerced
  rw [coerced]
  rfl

theorem numberCount {operand : Operand} (member : operand ∈ call.operands) :
    ∃ e, call.numberCount operand = .ok e ∧
      row.Gives e (some (if row.numberOf operand = none then 0 else 1)) := by
  obtain ⟨e, coerced, value⟩ := suits.toNumber member
  have present : ∃ e, (do return Call.presence (← call.toNumber operand)) = Except.ok e ∧
      row.Gives e (some (if row.numberOf operand = none then 0 else 1)) := by
    rw [coerced]
    exact ⟨_, rfl, gives_presence value⟩
  unfold Call.numberCount
  cases kind : operand.kind with
  | json => exact absurd kind (suits.single operand member)
  | blank =>
    refine ⟨0, rfl, ?_⟩
    rw [numberOf, kind, if_pos rfl]
    exact gives_zero
  | number | text | boolean | datetime | unknown => exact present

end Suits

theorem exists_forall₂ {compile : Operand → Except Error Expr} {P : Expr → Operand → Prop}
    {operands : List Operand}
    (each : ∀ operand ∈ operands, ∃ e, compile operand = .ok e ∧ P e operand) :
    ∃ items, operands.mapM compile = .ok items ∧ List.Forall₂ P items operands := by
  induction operands with
  | nil => exact ⟨[], rfl, .nil⟩
  | cons first rest ih =>
    obtain ⟨e, compiled, holds⟩ := each first List.mem_cons_self
    obtain ⟨items, others, all⟩ := ih fun operand member =>
      each operand (List.mem_cons_of_mem _ member)
    refine ⟨e :: items, ?_, .cons holds all⟩
    rw [List.mapM_cons, compiled, others]
    rfl

theorem exists_sum {row : RealRow} {compile : Operand → Except Error Expr} {value : Operand → ℝ}
    {operands : List Operand} (filled : operands ≠ [])
    (each : ∀ operand ∈ operands,
      ∃ e, compile operand = .ok e ∧ row.Gives e (some (value operand))) :
    ∃ items, operands.mapM compile = .ok items ∧
      row.Gives (.sequence .add items) (some (operands.map value).sum) := by
  obtain ⟨items, compiled, all⟩ := exists_forall₂ each
  refine ⟨items, compiled, gives_sum (List.forall₂_map_right_iff.2 all) ?_⟩
  rintro rfl
  cases all
  exact filled rfl

noncomputable def numbers (row : RealRow) (operands : List Operand) : List ℝ :=
  operands.filterMap row.numberOf

theorem sum_terms (row : RealRow) (operands : List Operand) :
    (operands.map fun operand => (row.numberOf operand).getD 0).sum =
      (row.numbers operands).sum := by
  induction operands with
  | nil => rfl
  | cons first rest ih =>
    rw [List.map_cons, List.sum_cons, ih, numbers, numbers]
    cases number : row.numberOf first with
    | none => rw [List.filterMap_cons_none number, Option.getD_none, zero_add]
    | some r => rw [List.filterMap_cons_some number, Option.getD_some, List.sum_cons]

theorem sum_counts (row : RealRow) (operands : List Operand) :
    (operands.map fun operand => if row.numberOf operand = none then (0 : ℝ) else 1).sum =
      (row.numbers operands).length := by
  induction operands with
  | nil => exact Nat.cast_zero.symm
  | cons first rest ih =>
    rw [List.map_cons, List.sum_cons, ih, numbers, numbers]
    cases number : row.numberOf first with
    | none => rw [List.filterMap_cons_none number, if_pos rfl, zero_add]
    | some r =>
      rw [List.filterMap_cons_some number, if_neg (Option.some_ne_none r), List.length_cons,
        Nat.cast_succ, add_comm]

/-- What the number of a call is. It is missing where the operation is not defined. -/
def IsResult (row : RealRow) (call : Call) (result : Option ℝ) : Prop :=
  let x := row.numberOf (call.operand 0)
  let y := row.numberOf (call.operand 1)
  let numbers := row.numbers call.operands
  match call.operation with
  | .sqrt => result = x.bind sqrt?
  | .exp => result = x.bind expAt
  | .power => result = x.bind fun base => y.bind (powerAt base)
  | .log => result = x.bind fun argument => (row.numberAt call 1 10).bind (logAt argument)
  | .mod | .modulo => result = remainder? (x.getD 0) (y.getD 0)
  | .divide => IsQuotient (x.getD 0) (y.getD 0) result
  | .average => IsQuotient numbers.sum numbers.length result
  | .ceiling => IsMultiple (fun r => ⌈r⌉) x (row.numberAt call 1 1) result
  | .floor => IsMultiple (fun r => ⌊r⌋) x (row.numberAt call 1 1) result
  | _ => False

namespace Suits

variable {row : RealRow} {call : Call} (suits : row.Suits call)
include suits

theorem sqrt :
    ∃ e, call.sqrt = .ok e ∧ row.Gives e ((row.numberOf (call.operand 0)).bind sqrt?) := by
  obtain ⟨left, compiled, value⟩ := suits.number 0
  refine ⟨_, ?_, gives_sqrt value⟩
  rw [Call.sqrt, compiled]
  rfl

theorem exp :
    ∃ e, call.exp = .ok e ∧ row.Gives e ((row.numberOf (call.operand 0)).bind expAt) := by
  obtain ⟨left, compiled, value⟩ := suits.number 0
  refine ⟨_, ?_, gives_exp value⟩
  rw [Call.exp, compiled]
  rfl

theorem power :
    ∃ e, call.power = .ok e ∧
      row.Gives e ((row.numberOf (call.operand 0)).bind fun base =>
        (row.numberOf (call.operand 1)).bind (powerAt base)) := by
  obtain ⟨left, compiled, value⟩ := suits.number 0
  obtain ⟨right, compiled', value'⟩ := suits.number 1
  refine ⟨_, ?_, gives_powerOf value value'⟩
  rw [Call.power, compiled, compiled']
  rfl

theorem log :
    ∃ e, call.log = .ok e ∧
      row.Gives e ((row.numberOf (call.operand 0)).bind fun argument =>
        (row.numberAt call 1 10).bind (logAt argument)) := by
  have ten : row.Gives 10 (some 10) := by
    have value : row.Gives 10 (some ((10 : Int) : ℝ)) := gives_int rfl
    rwa [Int.cast_ofNat] at value
  obtain ⟨left, compiled, value⟩ := suits.number 0
  obtain ⟨right, compiled', value'⟩ := suits.numberOr 1 ten
  refine ⟨_, ?_, gives_logOf value value'⟩
  rw [Call.log, compiled, compiled']
  rfl

theorem divide :
    ∃ e z, call.divide = .ok e ∧ row.Gives e z ∧
      IsQuotient ((row.numberOf (call.operand 0)).getD 0) ((row.numberOf (call.operand 1)).getD 0)
        z := by
  obtain ⟨left, compiled, value⟩ := suits.numberOrZero 0
  obtain ⟨right, compiled', value'⟩ := suits.numberOrZero 1
  obtain ⟨z, quotient, shape⟩ := exists_quotient value value'
  refine ⟨_, z, ?_, quotient, shape⟩
  rw [Call.divide, compiled, compiled']
  rfl

theorem modulo :
    ∃ e, call.modulo = .ok e ∧
      row.Gives e (remainder? ((row.numberOf (call.operand 0)).getD 0)
        ((row.numberOf (call.operand 1)).getD 0)) := by
  obtain ⟨left, compiled, value⟩ := suits.numberOrZero 0
  obtain ⟨right, compiled', value'⟩ := suits.numberOrZero 1
  rw [Call.modulo, compiled, compiled']
  cases dialect : call.dialect with
  | postgres =>
    refine ⟨_, rfl, gives_cast_double (gives_remainder (by decide) rfl ?_ ?_)⟩
    · exact gives_cast_numeric value
    · exact gives_nullIf_zero (gives_cast_numeric value')
  | sqlite => exact ⟨_, rfl, gives_remainder (by decide) rfl value (gives_nullIf_zero value')⟩

theorem average (given : call.args ≠ []) :
    ∃ e z, call.average = .ok e ∧ row.Gives e z ∧
      IsQuotient (row.numbers call.operands).sum (row.numbers call.operands).length z := by
  have filled : call.operands ≠ [] := by
    rw [Call.operands, ne_eq, List.mapIdx_eq_nil_iff]
    exact given
  obtain ⟨terms, compiled, sum⟩ := exists_sum filled fun operand => suits.toNumberOrZero
  obtain ⟨counts, compiled', count⟩ := exists_sum filled fun operand => suits.numberCount
  rw [sum_terms] at sum
  rw [sum_counts] at count
  obtain ⟨z, quotient, shape⟩ := exists_quotient sum count
  refine ⟨_, z, ?_, quotient, shape⟩
  rw [Call.average, compiled', Call.sum, compiled]
  rfl

theorem multiple {rounding : String} {g : ℝ → ℝ} (other : rounding ≠ "COALESCE")
    (named : Quantity.call rounding = Quantity.unary fun r => some (g r)) :
    ∃ e z, (do return Call.multipleOf rounding (← call.number 0) (← call.numberOr 1 1)) =
        Except.ok e ∧ row.Gives e z ∧
      IsMultiple g (row.numberOf (call.operand 0)) (row.numberAt call 1 1) z := by
  obtain ⟨left, compiled, value⟩ := suits.number 0
  obtain ⟨right, compiled', value'⟩ := suits.numberOr 1 gives_one
  obtain ⟨z, multiple, shape⟩ := exists_multipleOf other named value value'
  refine ⟨_, z, ?_, multiple, shape⟩
  rw [compiled, compiled']
  rfl

theorem exists_result (given : call.args ≠ []) (listed : call.operation ∈ partialOperations) :
    ∃ e z, call.compile = .ok e ∧ row.Gives e z ∧ row.IsResult call z := by
  simp only [partialOperations, List.mem_cons, List.not_mem_nil, or_false] at listed
  unfold Call.compile Call.own? Call.shared IsResult
  rcases listed with operation | operation | operation | operation | operation | operation |
    operation | operation | operation | operation
  all_goals rw [operation]
  · obtain ⟨e, compiled, value⟩ := suits.sqrt
    exact ⟨e, _, compiled, value, rfl⟩
  · obtain ⟨e, compiled, value⟩ := suits.exp
    exact ⟨e, _, compiled, value, rfl⟩
  · obtain ⟨e, compiled, value⟩ := suits.power
    exact ⟨e, _, compiled, value, rfl⟩
  · obtain ⟨e, compiled, value⟩ := suits.log
    exact ⟨e, _, compiled, value, rfl⟩
  · exact suits.divide
  · obtain ⟨e, compiled, value⟩ := suits.modulo
    exact ⟨e, _, compiled, value, rfl⟩
  · obtain ⟨e, compiled, value⟩ := suits.modulo
    exact ⟨e, _, compiled, value, rfl⟩
  · exact suits.average given
  · exact suits.multiple (by decide) rfl
  · exact suits.multiple (by decide) rfl

end Suits

end RealRow

/--
Numeric operations stay in the domains of what they apply. For all numbers and nulls, the expression
of such an operation has a value, while a root of a negative number, a logarithm of a number that is
not positive, a power of zero or of a negative number that is not defined, an exponential above 709
and a division by zero have none. Where the operation is not defined the value is null.
-/
theorem partial_operations_in_domain (call : Call) (row : RealRow) (suits : row.Suits call)
    (checked : Target.check call.operation call.args call.hints = .ok ())
    (listed : call.operation ∈ partialOperations) :
    ∃ (e : Expr) (result : Option ℝ),
      call.target.renderOperation call.job call.operation call.args call.hints =
          .ok (e.print call.dialect) ∧
        row.Gives e result ∧ row.IsResult call result := by
  have given : call.args ≠ [] := by
    intro none
    have accepted := accepts_of_check checked
    rw [none] at accepted
    revert accepted
    generalize call.operation = operation at listed
    revert operation
    decide
  obtain ⟨e, result, compiled, value, shape⟩ := suits.exists_result given listed
  exact ⟨e, result, renderOperation_of_compile checked compiled, value, shape⟩

def growth : Call :=
  { job := .ofCatalog (.ofFields []) ⟨0, 0⟩, target := ⟨.sqlite, .select⟩, operation := .power,
    args := ["\"rate\"", "\"years\""], hints := [] }

noncomputable def growthRow : RealRow where
  dialect := .sqlite
  value := fun _ => .null
  isInteger := fun _ => false
  shown := fun _ => []
  real? := fun sql => if sql = "\"rate\"" then some (-√2) else some (1 / 2)
  shownReal := fun _ => []

theorem partial_operations_in_domain_growth :
    growthRow.Suits growth ∧ Target.check .power growth.args [] = .ok () ∧
      Operation.power ∈ partialOperations ∧
      ∃ e : Expr,
        Target.renderOperation ⟨.sqlite, .select⟩ growth.job .power growth.args [] =
            .ok (e.print .sqlite) ∧
          e.Computes growthRow.interpretation .null := by
  have operands : growth.operands =
      [⟨"\"rate\"", .unknown, false, .unknown, none⟩,
        ⟨"\"years\"", .unknown, false, .unknown, none⟩] := rfl
  have suits : growthRow.Suits growth := by
    refine ⟨rfl, ?_, ?_⟩
    · rw [operands]
      simp
    · rw [operands]
      simp [RealRow.Holds]
  have checked : Target.check .power growth.args [] = .ok () := rfl
  have listed : Operation.power ∈ partialOperations := by decide
  have number : ∀ (sql : String) {x : ℝ}, literalKind? sql = none →
      growthRow.real? sql = some x →
      growthRow.looseNumber? (growthRow.fragment sql) = some x := by
    intro sql x literal found
    rw [RealRow.fragment, literal, found]
    rfl
  have base : growthRow.numberOf (growth.operand 0) = some (-√2) :=
    number "\"rate\"" rfl (by simp [growthRow])
  have exponent : growthRow.numberOf (growth.operand 1) = some (1 / 2) :=
    number "\"years\"" rfl (by simp [growthRow])
  obtain ⟨e, result, rendered, ⟨a, value, is⟩, shape⟩ :=
    partial_operations_in_domain growth growthRow suits checked listed
  have missing : powerAt (-√2) (1 / 2) = none := by
    refine if_pos (.inr ⟨neg_neg_of_pos (Real.sqrt_pos.2 two_pos), ?_⟩)
    norm_num
  change result = _ at shape
  rw [base, exponent, Option.bind_some, Option.bind_some, missing] at shape
  rw [shape] at is
  cases is
  exact ⟨suits, checked, listed, e, rendered, value⟩

end SheetSql
