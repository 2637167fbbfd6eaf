import SheetSql.Proofs.Meaning.Number
import SheetSql.Render

namespace SheetSql

/-! Quotients and means. -/

namespace Row

noncomputable def term (row : Row) (operand : Operand) : Value :=
  if row.numeric operand = .null then .int 0 else row.numeric operand

noncomputable def numbers (row : Row) (operands : List Operand) : List ℚ :=
  operands.filterMap row.numberOf

def wholes (row : Row) (operands : List Operand) : List Int :=
  operands.filterMap row.wholeOf

/-- Whether a call can be evaluated in a row: there is no JSON, and columns have their types. -/
structure Suits (row : Row) (call : Call) : Prop where
  dialect : row.dialect = call.dialect
  single : ∀ operand ∈ call.operands, operand.kind ≠ .json
  held : ∀ operand ∈ call.operands, operand.isLiteral = false → row.Holds operand

end Row

section

variable {row : Row}

theorem number?_term (operand : Operand) :
    (row.term operand).number? = some ((row.numberOf operand).getD 0) := by
  unfold Row.term
  split
  · next null =>
      rw [(numeric_eq_null_iff operand).1 null]
      rfl
  · next given =>
      rw [number?_numeric]
      cases number : row.numberOf operand with
      | none => exact absurd ((numeric_eq_null_iff operand).2 number) given
      | some q => rfl

theorem int?_term (operand : Operand) :
    (row.term operand).int? =
      if row.numberOf operand = none then some 0 else row.wholeOf operand := by
  unfold Row.term
  rw [if_congr (numeric_eq_null_iff operand) rfl rfl]
  split
  · rfl
  · exact int?_numeric operand

theorem number_cases (row : Row) (operand : Operand) :
    (row.numberOf operand = none ∧ row.wholeOf operand = none ∧
        (row.term operand).int? = some 0) ∨
      (∃ q, row.numberOf operand = some q ∧ row.wholeOf operand = none ∧
        (row.term operand).int? = none) ∨
      ∃ n : Int, row.numberOf operand = some (n : ℚ) ∧ row.wholeOf operand = some n ∧
        (row.term operand).int? = some n := by
  cases whole : row.wholeOf operand with
  | some n =>
    have number := numberOf_of_wholeOf whole
    refine .inr (.inr ⟨n, number, rfl, ?_⟩)
    rw [int?_term, number, if_neg (Option.some_ne_none _), whole]
  | none =>
    cases number : row.numberOf operand with
    | none => exact .inl ⟨rfl, rfl, by rw [int?_term, number, if_pos rfl]⟩
    | some q =>
      refine .inr (.inl ⟨q, rfl, rfl, ?_⟩)
      rw [int?_term, number, if_neg (Option.some_ne_none q), whole]

theorem int?_term_of_wholeOf (whole : row.wholeOf operand = some n) :
    (row.term operand).int? = some n := by
  rw [int?_term, numberOf_of_wholeOf whole, if_neg (Option.some_ne_none _), whole]

theorem wholeOf_of_int?_term (whole : (row.term operand).int? = some n) (nonzero : n ≠ 0) :
    row.wholeOf operand = some n := by
  rw [int?_term] at whole
  split at whole
  · exact absurd (Option.some.inj whole).symm nonzero
  · exact whole

theorem sqlite_of_wholeOf (whole : row.wholeOf operand = some n) : row.dialect = .sqlite := by
  unfold Row.wholeOf at whole
  split at whole
  · next both => exact both.1
  · cases whole

theorem eval_toNumberOrZero (site : Site) (same : row.dialect = site.target.dialect)
    {operand : Operand} (single : operand.kind ≠ .json) (held : row.Holds operand) :
    ∃ e, site.toNumberOrZero operand = .ok e ∧ e.eval row = some (row.term operand) := by
  obtain ⟨e, coerced, value⟩ := eval_toNumber site same single held
  have zero : (0 : Expr).eval row = some (.int 0) := rfl
  refine ⟨e.orElse 0, ?_, eval_orElse value zero⟩
  rw [Site.toNumberOrZero, coerced]
  rfl

noncomputable def Row.count (row : Row) (operand : Operand) : Int :=
  if (row.numberOf operand).isSome then 1 else 0

theorem eval_presence {e : Expr} (value : e.eval row = some v) :
    (Call.presence e).eval row = some (.int (if v = .null then 0 else 1)) := by
  have null : e.isNull.eval row =
      some (.ofTruth row.dialect (some (decide (v = .null) != false))) := by
    rw [Expr.isNull, Expr.eval, value]
    rfl
  rw [Call.presence, Expr.ite, eval_caseWhen, evalBranches_cons null]
  by_cases isNull : v = .null
  · rw [isNull]
    rfl
  · rw [decide_eq_false isNull, if_neg isNull]
    rfl

theorem eval_numberCount {call : Call} (same : row.dialect = call.dialect) {operand : Operand}
    (single : operand.kind ≠ .json) (held : row.Holds operand) :
    ∃ e, call.numberCount operand = .ok e ∧ e.eval row = some (.int (row.count operand)) := by
  obtain ⟨e, coerced, value⟩ := eval_toNumber call.toSite same single held
  have counted : (if row.numeric operand = .null then 0 else 1) = row.count operand := by
    rw [if_congr (numeric_eq_null_iff operand) rfl rfl, Row.count]
    cases row.numberOf operand <;> rfl
  have present : ∃ e, (do return Call.presence (← call.toNumber operand)) = Except.ok e ∧
      e.eval row = some (.int (row.count operand)) := by
    rw [coerced, ← counted]
    exact ⟨_, rfl, eval_presence value⟩
  unfold Call.numberCount
  cases kind : operand.kind with
  | json => exact absurd kind single
  | blank =>
    refine ⟨0, rfl, ?_⟩
    rw [Row.count, Row.numberOf, kind]
    rfl
  | number | text | boolean | datetime | unknown => exact present

theorem exists_mapM {compile : Operand → Except Error Expr} {value : Operand → Value}
    {operands : List Operand}
    (each : ∀ operand ∈ operands,
      ∃ e, compile operand = .ok e ∧ e.eval row = some (value operand)) :
    ∃ items, operands.mapM compile = .ok items ∧
      evalEach row items = some (operands.map value) := by
  induction operands with
  | nil => exact ⟨[], rfl, rfl⟩
  | cons first rest ih =>
    obtain ⟨e, compiled, evaluated⟩ := each first List.mem_cons_self
    obtain ⟨items, others, values⟩ := ih fun operand member =>
      each operand (List.mem_cons_of_mem _ member)
    refine ⟨e :: items, ?_, evalEach_cons evaluated values⟩
    rw [List.mapM_cons, compiled, others]
    rfl

theorem sum_terms (operands : List Operand) :
    ((operands.map row.term).filterMap Value.number?).sum = (row.numbers operands).sum := by
  induction operands with
  | nil => rfl
  | cons first rest ih =>
    rw [List.map_cons, List.filterMap_cons_some (number?_term first), List.sum_cons, ih,
      Row.numbers, Row.numbers]
    cases number : row.numberOf first with
    | none => rw [List.filterMap_cons_none number, Option.getD_none, zero_add]
    | some q => rw [List.filterMap_cons_some number, Option.getD_some, List.sum_cons]

theorem sum_wholes (operands : List Operand) :
    ((operands.map row.term).filterMap Value.int?).sum = (row.wholes operands).sum := by
  induction operands with
  | nil => rfl
  | cons first rest ih =>
    rw [List.map_cons, Row.wholes]
    rw [Row.wholes] at ih
    obtain ⟨-, whole, term⟩ | ⟨q, -, whole, term⟩ | ⟨n, -, whole, term⟩ := number_cases row first
    · rw [List.filterMap_cons_some term, List.filterMap_cons_none whole, List.sum_cons, zero_add,
        ih]
    · rw [List.filterMap_cons_none term, List.filterMap_cons_none whole, ih]
    · rw [List.filterMap_cons_some term, List.filterMap_cons_some whole, List.sum_cons,
        List.sum_cons, ih]

theorem length_wholes_le (row : Row) (operands : List Operand) :
    (row.wholes operands).length ≤ (row.numbers operands).length := by
  induction operands with
  | nil => exact Nat.le_refl _
  | cons first rest ih =>
    rw [Row.wholes, Row.numbers] at ih ⊢
    obtain ⟨number, whole, -⟩ | ⟨q, number, whole, -⟩ | ⟨n, number, whole, -⟩ :=
      number_cases row first
    · rw [List.filterMap_cons_none number, List.filterMap_cons_none whole]
      exact ih
    · rw [List.filterMap_cons_some number, List.filterMap_cons_none whole, List.length_cons]
      exact Nat.le_succ_of_le ih
    · rw [List.filterMap_cons_some number, List.filterMap_cons_some whole, List.length_cons,
        List.length_cons]
      exact Nat.succ_le_succ ih

theorem all_terms_iff (operands : List Operand) :
    ((operands.map row.term).all fun v => v.int?.isSome) = true ↔
      row.numbers operands = (row.wholes operands).map Int.cast := by
  induction operands with
  | nil => exact iff_of_true rfl rfl
  | cons first rest ih =>
    have fewer := length_wholes_le row rest
    rw [List.map_cons, List.all_cons, Bool.and_eq_true, ih]
    unfold Row.wholes Row.numbers at fewer ⊢
    obtain ⟨number, whole, term⟩ | ⟨q, number, whole, term⟩ | ⟨n, number, whole, term⟩ :=
      number_cases row first
    · rw [List.filterMap_cons_none number, List.filterMap_cons_none whole, term]
      exact and_iff_right rfl
    · rw [List.filterMap_cons_some number, List.filterMap_cons_none whole, term]
      refine iff_of_false (fun both => absurd both.1 (by decide)) fun same => ?_
      have lengths := congrArg List.length same
      rw [List.length_cons, List.length_map] at lengths
      omega
    · rw [List.filterMap_cons_some number, List.filterMap_cons_some whole, List.map_cons,
        List.cons_eq_cons, term]
      exact and_congr_left' (iff_of_true rfl rfl)

theorem sum_counts (operands : List Operand) :
    ((operands.map fun operand => Value.int (row.count operand)).filterMap Value.int?).sum =
      ((row.numbers operands).length : ℤ) := by
  induction operands with
  | nil => rfl
  | cons first rest ih =>
    have counted : (Value.int (row.count first)).int? = some (row.count first) := rfl
    rw [List.map_cons, List.filterMap_cons_some counted, List.sum_cons, ih, Row.count,
      Row.numbers, Row.numbers]
    cases number : row.numberOf first with
    | none =>
      rw [List.filterMap_cons_none number]
      exact zero_add _
    | some q =>
      rw [List.filterMap_cons_some number, List.length_cons, Nat.cast_succ]
      exact add_comm _ _

theorem adds_counts {total : Value} {operands : List Operand}
    (adds : total.Adds (operands.map fun operand => .int (row.count operand))) :
    total = .int (row.numbers operands).length := by
  have whole := adds.whole
  rw [if_pos, sum_counts] at whole
  · cases total with
    | int n =>
      cases whole
      rfl
    | null | bool _ | real _ | text _ | other _ => cases whole
  · rw [List.all_map]
    exact List.all_eq_true.2 fun _ _ => rfl

theorem accepts_of_check (checked : Target.check operation args hints = .ok ()) :
    operation.arity.accepts args.length = true := by
  unfold Target.check at checked
  by_contra wrong
  rw [Bool.not_eq_true] at wrong
  rw [wrong] at checked
  cases checked

theorem renderOperation_of_compile {call : Call}
    (checked : Target.check call.operation call.args call.hints = .ok ())
    (compiled : call.compile = .ok e) :
    call.target.renderOperation call.job call.operation call.args call.hints =
      .ok (e.print call.dialect) := by
  have shape : call.target.renderOperation call.job call.operation call.args call.hints =
      (do return (← call.compile).print call.dialect) := by
    rw [Target.renderOperation, checked]
    rfl
  rw [shape, compiled]
  rfl

theorem render_of_compile {call : Call} (named : Operation.ofName? name = some call.operation)
    (checked : Target.check call.operation call.args call.hints = .ok ())
    (compiled : call.compile = .ok e) :
    call.target.render call.job name call.args call.hints = .ok (e.print call.dialect) := by
  rw [Target.render, named]
  exact renderOperation_of_compile checked compiled

theorem operand_mem {call : Call} (given : i < call.args.length) :
    call.operand i ∈ call.operands := by
  refine List.mem_mapIdx.2 ⟨i, given, ?_⟩
  rw [Call.operand, Call.sqlAt, List.getElem?_eq_getElem given, Option.getD_some]

theorem Row.Suits.holds {call : Call} (suits : row.Suits call) {operand : Operand}
    (member : operand ∈ call.operands) : row.Holds operand := by
  have held := suits.held operand member
  obtain ⟨i, given, rfl⟩ := List.mem_mapIdx.1 member
  exact holds_classify held

theorem exists_quotient (suits : row.Suits call) (two : 1 < call.args.length) :
    ∃ e v, call.divide = .ok e ∧ e.eval row = some v ∧
      (v.Denotes (ratio ((row.numberOf (call.operand 0)).getD 0)
          ((row.numberOf (call.operand 1)).getD 0)) ↔
        ¬∃ m n, row.wholeOf (call.operand 0) = some m ∧ row.wholeOf (call.operand 1) = some n ∧
          n ≠ 0 ∧ ¬n ∣ m) := by
  have dividend := operand_mem (Nat.lt_of_succ_lt two)
  have divisor := operand_mem two
  obtain ⟨left, compiled, first⟩ := eval_toNumberOrZero call.toSite suits.dialect
    (suits.single _ dividend) (suits.holds dividend)
  obtain ⟨right, compiled', second⟩ := eval_toNumberOrZero call.toSite suits.dialect
    (suits.single _ divisor) (suits.holds divisor)
  obtain ⟨v, quotient, exactly⟩ := eval_quotient first second (number?_term _) (number?_term _)
  refine ⟨_, v, ?_, quotient, exactly.trans (not_congr ?_)⟩
  · rw [Call.divide, Call.numberOrZero, Call.numberOrZero, compiled, compiled']
    rfl
  constructor
  · rintro ⟨m, n, whole, whole', nonzero, -, other⟩
    -- A missing number is the integer zero, of which everything is a divisor.
    have given : m ≠ 0 := by
      rintro rfl
      exact other (dvd_zero n)
    exact ⟨m, n, wholeOf_of_int?_term whole given, wholeOf_of_int?_term whole' nonzero, nonzero,
      other⟩
  · rintro ⟨m, n, whole, whole', nonzero, other⟩
    exact ⟨m, n, int?_term_of_wholeOf whole, int?_term_of_wholeOf whole', nonzero,
      .inl (sqlite_of_wholeOf whole), other⟩

theorem exists_mean {call : Call} (suits : row.Suits call) (given : call.args ≠ []) :
    ∃ e v, call.average = .ok e ∧ e.eval row = some v ∧
      (v.Denotes (ratio (row.numbers call.operands).sum (row.numbers call.operands).length) ↔
        ¬(row.numbers call.operands = (row.wholes call.operands).map Int.cast ∧
          ¬((row.wholes call.operands).length : ℤ) ∣ (row.wholes call.operands).sum)) := by
  obtain ⟨terms, compiled, values⟩ := exists_mapM fun operand member =>
    eval_toNumberOrZero call.toSite suits.dialect (suits.single operand member)
      (suits.holds member)
  obtain ⟨counts, compiled', values'⟩ := exists_mapM fun operand member =>
    eval_numberCount suits.dialect (suits.single operand member) (suits.holds member)
  have filled : call.operands ≠ [] := by
    rw [Call.operands, ne_eq, List.mapIdx_eq_nil_iff]
    exact given
  obtain ⟨total, first, adds⟩ := eval_sum values (mt List.map_eq_nil_iff.1 filled) (by
    intro v member
    obtain ⟨operand, -, rfl⟩ := List.mem_map.1 member
    rw [number?_term]
    rfl)
  obtain ⟨count, second, adds'⟩ := eval_sum values' (mt List.map_eq_nil_iff.1 filled) (by
    intro v member
    obtain ⟨operand, -, rfl⟩ := List.mem_map.1 member
    rfl)
  -- The count is always an integer, so that all depends on the sum.
  obtain rfl := adds_counts adds'
  have number := adds.number
  rw [sum_terms] at number
  obtain ⟨v, quotient, exactly⟩ := eval_quotient first second number rfl
  rw [Int.cast_natCast] at exactly
  refine ⟨_, v, ?_, quotient, exactly.trans (not_congr ?_)⟩
  · rw [Call.average, compiled', Call.sum, compiled]
    rfl
  rw [adds.whole, sum_wholes, if_congr (all_terms_iff call.operands) rfl rfl]
  constructor
  · rintro ⟨m, n, whole, ⟨⟩, -, -, other⟩
    split at whole
    · next all =>
        cases whole
        refine ⟨all, ?_⟩
        rw [all, List.length_map] at other
        exact other
    · cases whole
  · rintro ⟨all, other⟩
    have count : (row.numbers call.operands).length = (row.wholes call.operands).length := by
      rw [all, List.length_map]
    have some : row.wholes call.operands ≠ [] := by
      intro none
      rw [none] at other
      exact other (dvd_zero _)
    obtain ⟨n, member⟩ := List.exists_mem_of_ne_nil _ some
    obtain ⟨operand, -, whole⟩ := List.mem_filterMap.1 member
    refine ⟨_, _, if_pos all, rfl, ?_, .inl (sqlite_of_wholeOf whole), ?_⟩
    · rw [count, ne_eq, Nat.cast_eq_zero, List.length_eq_zero_iff]
      exact some
    · rw [count]
      exact other

theorem compile_divide {call : Call} (operation : call.operation = .divide) :
    call.compile = call.divide := by
  unfold Call.compile Call.own? Call.shared
  rw [operation]

theorem compile_average {call : Call} (operation : call.operation = .average) :
    call.compile = call.average := by
  unfold Call.compile Call.own? Call.shared
  rw [operation]

end

/--
The quotient of two operands and the mean of several are exact. A missing number is zero in a
quotient and left out of a mean, and there is no quotient by zero. This fails in one case only: on
SQLite an operand that is not known to be a number may have an integer as its value, and if all
the numbers are such integers, then the fraction is lost.
-/
theorem division_exact_iff (call : Call) (row : Row) (suits : row.Suits call)
    (checked : Target.check call.operation call.args call.hints = .ok ()) :
    (call.operation = .divide →
      ∃ (e : Expr) (v : Value),
        call.target.renderOperation call.job call.operation call.args call.hints =
            .ok (e.print call.dialect) ∧
        e.eval row = some v ∧
        (v.Denotes (ratio ((row.numberOf (call.operand 0)).getD 0)
            ((row.numberOf (call.operand 1)).getD 0)) ↔
          ¬∃ m n, row.wholeOf (call.operand 0) = some m ∧ row.wholeOf (call.operand 1) = some n ∧
            n ≠ 0 ∧ ¬n ∣ m)) ∧
    (call.operation = .average →
      ∃ (e : Expr) (v : Value),
        call.target.renderOperation call.job call.operation call.args call.hints =
            .ok (e.print call.dialect) ∧
        e.eval row = some v ∧
        (v.Denotes (ratio (row.numbers call.operands).sum (row.numbers call.operands).length) ↔
          ¬(row.numbers call.operands = (row.wholes call.operands).map Int.cast ∧
            ¬((row.wholes call.operands).length : ℤ) ∣ (row.wholes call.operands).sum))) := by
  have accepted := accepts_of_check checked
  constructor
  · intro operation
    rw [operation] at accepted
    have two : 1 < call.args.length := by
      obtain ⟨least, -⟩ := Bool.and_eq_true_iff.1 accepted
      exact of_decide_eq_true least
    obtain ⟨e, v, compiled, value, exactly⟩ := exists_quotient suits two
    refine ⟨e, v, ?_, value, exactly⟩
    exact renderOperation_of_compile checked ((compile_divide operation).trans compiled)
  · intro operation
    rw [operation] at accepted
    have given : call.args ≠ [] := by
      intro none
      rw [none] at accepted
      cases accepted
    obtain ⟨e, v, compiled, value, exactly⟩ := exists_mean suits given
    refine ⟨e, v, ?_, value, exactly⟩
    exact renderOperation_of_compile checked ((compile_average operation).trans compiled)

def costPer (divisor : String) : Call :=
  { job := .ofCatalog (.ofFields []) ⟨0, 0⟩, target := ⟨.sqlite, .select⟩, operation := .divide,
    args := ["\"cost\"", divisor], hints := [] }

def costRow : Row where
  dialect := .sqlite
  value := fun sql => if sql = "\"cost\"" then .int 7 else .int 2
  isInteger := fun _ => true
  shown := fun _ => []

theorem division_exact_iff_cost :
    costRow.Suits (costPer "2") ∧ Target.check .divide (costPer "2").args [] = .ok () ∧
      ∃ (e : Expr) (v : Value),
        Target.renderOperation ⟨.sqlite, .select⟩ (costPer "2").job .divide (costPer "2").args [] =
            .ok (e.print .sqlite) ∧
          e.eval costRow = some v ∧ v.Denotes (ratio 7 2) := by
  have operands : (costPer "2").operands =
      [⟨"\"cost\"", .unknown, false, .unknown, none⟩, ⟨"2", .number, true, .unknown, none⟩] := rfl
  have suits : costRow.Suits (costPer "2") := by
    refine ⟨rfl, ?_, ?_⟩
    · rw [operands]
      simp
    · rw [operands]
      simp [Row.Holds]
  have checked : Target.check .divide (costPer "2").args [] = .ok () := rfl
  obtain ⟨e, v, rendered, value, exactly⟩ :=
    (division_exact_iff (costPer "2") costRow suits checked).1 rfl
  refine ⟨suits, checked, e, v, rendered, value, exactly.2 ?_⟩
  rintro ⟨m, n, -, whole, -⟩
  cases whole

/-- Seven by two is three on SQLite if both come from columns of an unknown kind. -/
theorem sqlite_integer_quotient :
    costRow.numberOf ((costPer "\"units\"").operand 0) = some 7 ∧
      costRow.numberOf ((costPer "\"units\"").operand 1) = some 2 ∧
      ∃ e : Expr,
        Target.render ⟨.sqlite, .select⟩ (costPer "\"units\"").job "DIVIDE"
            ["\"cost\"", "\"units\""] [] = .ok (e.print .sqlite) ∧
          e.eval costRow = some (.int 3) ∧ ¬(Value.int 3).Denotes (ratio 7 2) := by
  have kept : ∀ {sql : String} {n : Int}, (Expr.fragment sql).eval costRow = some (.int n) →
      ((Coerce.looseNumber .sqlite (.fragment sql)).orElse 0).eval costRow = some (.int n) := by
    intro sql n value
    have loose := eval_looseNumber_number value (fun _ => Value.noConfusion) rfl
    rw [eval_orElse loose (by rfl), if_neg Value.noConfusion]
  have seven : (Expr.fragment "\"cost\"").eval costRow = some (.int 7) := rfl
  have two : (Expr.fragment "\"units\"").eval costRow = some (.int 2) := rfl
  refine ⟨rfl, rfl, _, rfl, eval_binary .div (kept seven) (eval_nullIf_zero (kept two) rfl), ?_⟩
  norm_num [ratio, Value.Denotes, Value.number?]

end SheetSql
