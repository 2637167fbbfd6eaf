import SheetSql.Proofs.Meaning.RealRow

namespace SheetSql

/-! The numbers of operands in rows that hold real numbers. -/

open Coerce

namespace RealRow

noncomputable def looseNumber? (row : RealRow) : Quantity → Option ℝ
  | .value scalar => (row.toRow.looseNumber? scalar).map Rat.cast
  | .real x =>
    match row.dialect with
    | .sqlite => some x
    | .postgres => (looseText? .postgres (row.shownReal x)).map Rat.cast

noncomputable def numberOf (row : RealRow) (operand : Operand) : Option ℝ :=
  let quantity := row.fragment operand.sql
  match operand.kind with
  | .blank | .json => none
  | .number => quantity.number?
  | .boolean => (row.holds? quantity).join.map fun b => if b then 1 else 0
  | .text | .datetime | .unknown => row.looseNumber? quantity

def Holds (row : RealRow) (operand : Operand) : Prop :=
  let quantity := row.fragment operand.sql
  match operand.kind with
  | .number => ∃ x, quantity.Is x
  | .boolean => (row.holds? quantity).isSome = true
  | .blank | .text | .datetime | .json | .unknown => True

abbrev withValue (row : RealRow) (value : String → Value) : Row := { row.toRow with value }

end RealRow

/-- An expression has a value among real numbers if it has that value without them. -/
def Carries (row : RealRow) (value : String → Value) (e : Expr) : Prop :=
  ∀ v, e.eval (row.withValue value) = some v → e.Computes row.interpretation (.value v)

namespace Carries

variable {row : RealRow} {value : String → Value}

theorem null : Carries row value .null := by
  rintro v ⟨⟩
  exact .null

theorem text (content : String) : Carries row value (.text content) := by
  rintro v ⟨⟩
  exact .text content

theorem number (digits : String) : Carries row value (.number digits) := by
  intro v found
  obtain ⟨decimal, read, rfl⟩ := Option.map_eq_some_iff.1 found
  refine .number ?_
  change (Decimal.read? digits.toList).map _ = _
  rw [read]
  rfl

theorem forall₂_of_evalEach (each : ∀ e ∈ args, Carries row value e)
    (found : evalEach (row.withValue value) args = some values) :
    List.Forall₂ (Expr.Computes row.interpretation) args (values.map .value) := by
  induction args generalizing values with
  | nil =>
    cases found
    exact .nil
  | cons first rest ih =>
    obtain ⟨v, vs, rfl, head, tail⟩ := exists_of_evalEach_cons found
    exact .cons (each first List.mem_cons_self v head)
      (ih (fun e member => each e (List.mem_cons_of_mem _ member)) tail)

theorem call {function : String} {args : List Expr} (other : function ≠ "COALESCE")
    (named : ∀ values : List Value, Quantity.call function (values.map .value) =
      Quantity.applyScalars function (values.map .value))
    (each : ∀ e ∈ args, Carries row value e) : Carries row value (.call function args) := by
  intro v found
  rw [Expr.eval, if_neg other] at found
  obtain ⟨values, evaluated, applied⟩ := Option.bind_eq_some_iff.1 found
  refine .call other (forall₂_of_evalEach each evaluated) ?_
  exact (named values).trans (Quantity.applyScalars_values applied)

theorem typeof {e : Expr} (operand : Carries row value e) :
    Carries row value (.call "typeof" [e]) := by
  refine call (by decide) (fun values => ?_) (List.forall_mem_singleton.2 operand)
  cases values with
  | nil => rfl
  | cons v vs => cases vs <;> rfl

theorem binary (agrees : ∀ flag a b c, (row.withValue value).binary op flag a b = some c →
      row.binary op (.value a) (.value b) = some (.value c)) (first : Carries row value left)
    (second : Carries row value right) : Carries row value (.binary left op right) := by
  intro v found
  rw [Expr.eval] at found
  obtain ⟨a, head, rest⟩ := Option.bind_eq_some_iff.1 found
  obtain ⟨b, tail, result⟩ := Option.bind_eq_some_iff.1 rest
  exact .binary (first a head) (second b tail) (agrees _ a b v result)

theorem eq (first : Carries row value left) (second : Carries row value right) :
    Carries row value (left.eq right) := by
  refine binary (fun flag a b c result => ?_) first second
  obtain ⟨truth, compared, rfl⟩ := Option.map_eq_some_iff.1 result
  change (a.equal? b).map row.ofTruth = _
  rw [compared]
  rfl

theorem regexMatch (r : Regex) (operand : Carries row value e) :
    Carries row value (regexMatch e r) := by
  refine binary (fun flag a b c result => ?_) operand (text _)
  obtain ⟨truth, compared, rfl⟩ := Option.map_eq_some_iff.1 result
  change ((a.regexMatch? b).map (Value.ofTruth row.dialect)).bind _ = _
  rw [compared]
  rfl

theorem globMatch (glob : Glob) (operand : Carries row value e) :
    Carries row value (globMatch e glob) := by
  refine binary (fun flag a b c result => ?_) operand (text _)
  obtain ⟨truth, compared, rfl⟩ := Option.map_eq_some_iff.1 result
  change ((a.globMatch? b).map (Value.ofTruth row.dialect)).bind _ = _
  rw [compared]
  rfl

theorem not {e : Expr} (operand : Carries row value e) : Carries row value e.not := by
  intro v found
  obtain ⟨a, head, result⟩ := Option.bind_eq_some_iff.1 found
  obtain ⟨truth, counts, negated⟩ := Option.bind_eq_some_iff.1 result
  cases negated
  refine .unary (operand a head) ?_
  change (a.truth? row.dialect).bind _ = _
  rw [counts]
  rfl

theorem cast (binaryType : type ≠ .numeric) (operand : Carries row value e) :
    Carries row value (e.cast type) := by
  intro v found
  obtain ⟨a, head, result⟩ := Option.bind_eq_some_iff.1 found
  refine .cast (operand a head) ?_
  have same : row.cast type (.value a) = (row.toRow.cast a type).map .value := by
    cases type with
    | numeric => exact absurd rfl binaryType
    | _ => rfl
  exact same.trans (congrArg (Option.map Quantity.value) result)

theorem computeAmong_of_among? {a : Value} (each : ∀ e ∈ list, Carries row value e)
    (evaluated : evalEach (row.withValue value) list = some values)
    (among : a.among? values = some found) :
    computeAmong row.interpretation (.value a) list = some found := by
  induction list generalizing values found with
  | nil =>
    cases evaluated
    cases among
    rw [computeAmong]
  | cons first rest ih =>
    obtain ⟨v, vs, rfl, head, tail⟩ := exists_of_evalEach_cons evaluated
    obtain ⟨same, compared, others⟩ := Option.bind_eq_some_iff.1 among
    obtain ⟨later, later', joined⟩ := Option.bind_eq_some_iff.1 others
    cases joined
    have equal : row.interpretation.binary .eq (.value a) (.value v) =
        some (row.ofTruth same) := congrArg (Option.map row.ofTruth) compared
    have counts : row.interpretation.holds? (row.ofTruth same) = some same :=
      row.holds?_ofTruth same
    rw [computeAmong, each first List.mem_cons_self v head]
    change (row.interpretation.binary .eq (.value a) (.value v)).bind _ = _
    rw [equal]
    change (row.interpretation.holds? (row.ofTruth same)).bind _ = _
    rw [counts, ih (fun e member => each e (List.mem_cons_of_mem _ member)) tail later']
    rfl

theorem isIn (operand : Carries row value e) (each : ∀ e ∈ list, Carries row value e) :
    Carries row value (e.isIn list) := by
  intro v found
  rw [Expr.isIn, Expr.eval] at found
  obtain ⟨a, head, rest⟩ := Option.bind_eq_some_iff.1 found
  obtain ⟨values, evaluated, rest⟩ := Option.bind_eq_some_iff.1 rest
  obtain ⟨truth, among, result⟩ := Option.bind_eq_some_iff.1 rest
  cases result
  have computed := Expr.Computes.isIn (operand a head)
    (computeAmong_of_among? each evaluated among)
  cases truth <;> exact computed

section

variable {branches : List Branch} {otherwise : Option Expr}

theorem caseCons (test : Carries row value condition) (taken : Carries row value result)
    (passed : Carries row value (.caseWhen branches otherwise)) :
    Carries row value (.caseWhen (⟨condition, result⟩ :: branches) otherwise) := by
  intro v found
  rw [eval_caseWhen, evalBranches] at found
  obtain ⟨a, head, rest⟩ := Option.bind_eq_some_iff.1 found
  obtain ⟨truth, counts, result⟩ := Option.bind_eq_some_iff.1 rest
  refine .caseCons (test a head) counts (fun holds => ?_) fun other => ?_
  · rw [if_pos holds] at result
    exact taken v result
  · rw [if_neg other, ← eval_caseWhen] at result
    exact passed v result

theorem caseElse (last : Carries row value e) : Carries row value (.caseWhen [] (some e)) := by
  intro v found
  rw [eval_caseWhen, evalBranches, evalOptional] at found
  exact .caseElse (last v found)

theorem caseEnd : Carries row value (.caseWhen [] none) := by
  intro v found
  rw [eval_caseWhen, evalBranches, evalOptional] at found
  cases found
  exact .caseEnd

end

theorem replace (sign : String) (operand : Carries row value e) :
    Carries row value (.call "REPLACE" [e, .text sign, .text ""]) := by
  refine call (by decide) (fun _ => rfl) ?_
  simp only [List.forall_mem_cons]
  exact ⟨operand, text sign, text "", List.forall_mem_nil _⟩

theorem without {e : Expr} (chars : List Char) (operand : Carries row value e) :
    Carries row value (without e chars) := by
  induction chars generalizing e with
  | nil => exact operand
  | cons c chars ih => exact ih (replace _ operand)

theorem looseNumber_postgres {e : Expr} (shown : Carries row value (e.cast .text)) :
    Carries row value (looseNumber .postgres e) := by
  have bare : Carries row value (.call "REGEXP_REPLACE"
      [e.cast .text, .text decoration.text, .text "", .text "g"]) := by
    refine call (by decide) (fun _ => rfl) ?_
    simp only [List.forall_mem_cons]
    exact ⟨shown, text _, text _, text _, List.forall_mem_nil _⟩
  exact caseCons (shown.regexMatch _) null <|
    caseCons (shown.regexMatch _) (shown.cast (by decide)) <|
    caseCons (bare.regexMatch _) (bare.cast (by decide)) caseEnd

theorem looseNumber_sqlite (operand : Carries row value e) :
    Carries row value (looseNumber .sqlite e) := by
  have trim : Carries row value (.call "TRIM" [e.cast .text]) :=
    call (by decide) (fun _ => rfl) (List.forall_mem_singleton.2 (operand.cast (by decide)))
  have bare := trim.without decorationChars
  have type : Carries row value (isNumberType (.call "typeof" [e])) := by
    refine operand.typeof.isIn ?_
    simp only [List.forall_mem_cons]
    exact ⟨text _, text _, List.forall_mem_nil _⟩
  have rest : Carries row value (.call "substr"
      [SheetSql.without (.call "TRIM" [e.cast .text]) decorationChars, 2]) := by
    refine call (by decide) (fun _ => rfl) ?_
    simp only [List.forall_mem_cons]
    exact ⟨bare, number _, List.forall_mem_nil _⟩
  rw [SheetSql.looseNumber_sqlite]
  exact caseCons type operand <|
    caseCons (trim.globMatch _) null <|
    caseCons (bare.eq (text "")) null <|
    caseCons (bare.globMatch _) null <|
    caseCons (bare.globMatch _).not null <|
    caseCons (rest.globMatch _) null <|
    caseCons (bare.globMatch _) null <|
    caseElse (bare.cast (by decide))

end Carries

namespace RealRow

variable {row : RealRow}

theorem fragment_of_literalKind? (found : literalKind? sql = some kind) :
    row.fragment sql = .value (row.toRow.fragment sql) := by
  rw [fragment, found]

theorem eq_of_fragment_eq_value (found : row.fragment sql = .value v) :
    row.toRow.fragment sql = v := by
  unfold fragment at found
  split at found
  · cases found
  · exact Quantity.value.inj found

theorem literalKind?_of_fragment_eq_real (found : row.fragment sql = .real x) :
    literalKind? sql = none := by
  unfold fragment at found
  split at found
  · next none _ => exact none
  · cases found

theorem fragment_withValue (found : literalKind? sql = none) (text : value sql = .text cs) :
    (row.withValue value).fragment sql = .text cs := by
  unfold literalKind? at found
  unfold Row.fragment
  revert found
  dsimp only
  cases Sql.isNullLiteral sql with
  | true =>
    intro found
    cases found
  | false =>
    cases Sql.numberLiteral? sql with
    | some decimal =>
      intro found
      cases found
    | none =>
      cases Sql.textLiteral? sql with
      | some content =>
        intro found
        cases found
      | none =>
        cases Sql.boolLiteral? sql with
        | some b =>
          intro found
          cases found
        | none =>
          intro _
          rw [text]
          cases row.dialect <;> rfl

theorem holds_of_value {operand : Operand}
    (found : row.fragment operand.sql = .value (row.toRow.fragment operand.sql))
    (held : row.toRow.Holds operand) : row.Holds operand := by
  unfold Holds
  unfold Row.Holds at held
  rw [found]
  cases kind : operand.kind with
  | number =>
    rw [kind] at held
    rcases held with null | number
    · exact ⟨none, congrArg Quantity.value null⟩
    · obtain ⟨q, number⟩ := Option.isSome_iff_exists.1 number
      exact ⟨some q, congrArg (Option.map Rat.cast) number⟩
  | boolean =>
    rw [kind] at held
    exact held
  | blank | text | datetime | json | unknown => trivial

theorem holds_classify (held : (Operand.classify job sql hint).isLiteral = false →
      row.Holds (.classify job sql hint)) : row.Holds (.classify job sql hint) := by
  obtain ⟨kind, found, operand⟩ | other := classify_cases job sql hint
  · rw [operand]
    exact holds_of_value (fragment_of_literalKind? found) (holds_of_literalKind? found)
  · exact held other

theorem is_ofParts {whole : Option Int} {number : Option ℚ}
    (same : ∀ n, whole = some n → number = some (n : ℚ)) :
    (Quantity.value (.ofParts whole number)).Is (number.map Rat.cast) := by
  cases whole with
  | none => exact Quantity.is_ofNumber number
  | some n =>
    rw [same n rfl]
    rfl

theorem gives_looseNumber_value {sql : String} {v : Value} (found : row.fragment sql = .value v) :
    row.Gives (looseNumber row.dialect (.fragment sql))
      ((row.toRow.looseNumber? v).map Rat.cast) := by
  have whole := eq_of_fragment_eq_value found
  have carried : Carries row row.value (.fragment sql) := by
    rintro w ⟨⟩
    change Expr.Computes row.interpretation (.fragment sql) (.value (row.toRow.fragment sql))
    rw [whole, ← found]
    exact .fragment sql
  have loose : Carries row row.value (looseNumber row.dialect (.fragment sql)) := by
    cases row.dialect with
    | postgres => exact Carries.looseNumber_postgres (carried.cast (by decide))
    | sqlite => exact carried.looseNumber_sqlite
  have value : (Expr.fragment sql).eval row.toRow = some v := congrArg some whole
  refine ⟨_, loose _ (eval_looseNumber value fun sqlite => ?_), is_ofParts fun n int => ?_⟩
  · rw [← whole]
    exact fragment_ne_bool sqlite sql
  · split at int
    · next sqlite => rw [Row.looseNumber?, sqlite, Value.number?_of_int? int]
    · cases int

theorem gives_looseNumber_real (found : row.fragment sql = .real x) :
    row.Gives (looseNumber row.dialect (.fragment sql)) (row.looseNumber? (.real x)) := by
  have value : Expr.Computes row.interpretation (.fragment sql) (.real x) := by
    rw [← found]
    exact .fragment sql
  unfold looseNumber?
  cases dialect : row.dialect with
  | sqlite =>
    have type : Expr.Computes row.interpretation (.call "typeof" [.fragment sql])
        (.value (.text "real".toList)) := .call (by decide) (.cons value .nil) rfl
    have among : computeAmong row.interpretation (.value (.text "real".toList))
        [.text "integer", .text "real"] = some (some true) := by
      have each : ∀ e ∈ [Expr.text "integer", .text "real"], Carries row row.value e := by
        simp only [List.forall_mem_cons]
        exact ⟨.text _, .text _, List.forall_mem_nil _⟩
      exact Carries.computeAmong_of_among? each rfl rfl
    have isNumber : row.Tests (isNumberType (.call "typeof" [.fragment sql])) (some true) :=
      tests_of_computes (.isIn type among)
    rw [looseNumber_sqlite]
    exact gives_case isNumber (fun _ => ⟨_, value, rfl⟩) fun other => absurd rfl other
  | postgres =>
    have literal := literalKind?_of_fragment_eq_real found
    have text : (Expr.fragment sql).eval (row.withValue fun _ => .text (row.shownReal x)) =
        some (.text (row.shownReal x)) := congrArg some (fragment_withValue literal rfl)
    have shown : ((Expr.fragment sql).cast .text).eval
        (row.withValue fun _ => .text (row.shownReal x)) = some (.text (row.shownReal x)) :=
      eval_cast .text text
    have read := eval_looseNumber_postgres
      (show (row.withValue fun _ => .text (row.shownReal x)).dialect = .postgres from dialect) shown
    have carried : Carries row (fun _ => .text (row.shownReal x))
        ((Expr.fragment sql).cast .text) := by
      intro v found
      cases shown.symm.trans found
      exact .cast value rfl
    exact ⟨_, carried.looseNumber_postgres _ read, Quantity.is_ofNumber _⟩

theorem gives_looseNumber (sql : String) :
    row.Gives (looseNumber row.dialect (.fragment sql)) (row.looseNumber? (row.fragment sql)) := by
  cases found : row.fragment sql with
  | value v => exact gives_looseNumber_value found
  | real x => exact gives_looseNumber_real found

theorem gives_cast_double (first : row.Gives e x) : row.Gives (e.cast .double) x := by
  obtain ⟨a, value, is⟩ := first
  cases a with
  | real r => exact ⟨.real r, .cast value rfl, is⟩
  | value v =>
    have held : v = .null ∨ v.number?.isSome = true := by
      cases x with
      | none => exact .inl (Quantity.value.inj is)
      | some r =>
        obtain ⟨q, number, -⟩ := Option.map_eq_some_iff.1 is
        exact .inr (Option.isSome_of_eq_some number)
    have double := castDouble_of_number held row.dialect
    refine ⟨_, .cast value (congrArg (Option.map Quantity.value) double), ?_⟩
    rw [← is.number?]
    exact Quantity.is_ofNumber _

theorem gives_truthNumber (test : row.Tests e truth) :
    row.Gives (.caseWhen [⟨e, .number "1.0"⟩, ⟨e.not, .number "0.0"⟩] none)
      (truth.map fun b => if b then 1 else 0) := by
  have carried : ∀ digits, Carries row row.value (.number digits) := .number
  have one : row.Gives (.number "1.0") (some 1) :=
    ⟨_, carried _ _ eval_one, congrArg some Rat.cast_one⟩
  have zero : row.Gives (.number "0.0") (some 0) :=
    ⟨_, carried _ _ eval_zero, congrArg some Rat.cast_zero⟩
  refine gives_case test (fun holds => ?_) fun other => gives_case (tests_not test)
    (fun holds => ?_) fun other' => ?_
  · rw [holds]
    exact one
  · obtain ⟨b, rfl, fails⟩ := Option.map_eq_some_iff.1 holds
    cases b with
    | true => cases fails
    | false => exact zero
  · cases truth with
    | none => exact gives_caseEnd
    | some b => cases b <;> contradiction

theorem gives_toNumber (site : Site) (same : row.dialect = site.target.dialect) {operand : Operand}
    (single : operand.kind ≠ .json) (held : row.Holds operand) :
    ∃ e, site.toNumber operand = .ok e ∧ row.Gives e (row.numberOf operand) := by
  have value : operand.expr.Computes row.interpretation (row.fragment operand.sql) :=
    .fragment operand.sql
  unfold Site.toNumber numberOf
  unfold Holds at held
  rw [← same]
  cases kind : operand.kind with
  | json => exact absurd kind single
  | blank => exact ⟨_, rfl, gives_null⟩
  | number =>
    rw [kind] at held
    obtain ⟨x, is⟩ := held
    refine ⟨_, rfl, gives_cast_double ⟨_, value, ?_⟩⟩
    dsimp only
    rw [is.number?]
    exact is
  | boolean =>
    rw [kind] at held
    obtain ⟨truth, counts⟩ := Option.isSome_iff_exists.1 held
    refine ⟨_, rfl, ?_⟩
    dsimp only
    rw [counts]
    exact gives_truthNumber ⟨_, value, counts⟩
  | text | datetime | unknown => exact ⟨_, rfl, gives_looseNumber operand.sql⟩

end RealRow

end SheetSql
