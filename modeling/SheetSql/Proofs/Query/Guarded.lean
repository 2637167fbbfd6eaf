import SheetSql.Proofs.Meaning.Search
import SheetSql.Proofs.Number.Range
import SheetSql.Proofs.Query.Counted

namespace SheetSql

/-! Casts of texts to numbers, none of which leaves the range of a double. -/

open Coerce Steps

/-- A text is cast to a number only if it has been tested for being one. -/
def Act.IsGuarded : Act → Prop
  | .cast operand .double =>
    ∃ cs, operand = .value (.text cs) ∧ (numericText.Accepts cs ∨ plainNumber.Accepts cs)
  | _ => True

/-- A null or a moderate number comes out, and nothing is cast to a number unguarded. -/
def Steps.GivesModerate (x : Steps Datum) : Prop :=
  ∃ number : Option ℚ, (∀ q ∈ number, IsModerate q) ∧
    x.Gives Act.IsGuarded (.value (.ofNumber number))

/-- The values that the aggregate of a query casts, in the rows that its filter keeps. -/
noncomputable def Select.operands? (db : Database) (scope : Database.Scope) :
    Select → Option (List Datum)
  | ⟨none, [⟨.call _ [.cast operand _], _⟩],
      some (.function (.call function [arg]) ordinality label names), none, filter, []⟩ => do
      let items ← db.rowsOf function (← arg.answer db scope)
      let kept ← Database.keep? (fun row => answerFilter db row filter)
        (items.mapIdx (db.rowScope function label names ordinality))
      kept.mapM fun row => operand.answer db row
  | _ => none

theorem exists_short (accepted : numericText.Accepts cs ∨ plainNumber.Accepts cs) :
    ∃ number : Written, number.IsShort ∧ Chars.strip Chars.isSpace cs = number.text := by
  rcases accepted with ⟨_, accepted⟩ | ⟨_, accepted⟩
  · exact exists_written_of_numericText accepted
  · obtain ⟨number, short, rfl⟩ := exists_written_of_plainNumber accepted
    exact ⟨number, short, Chars.strip_eq_self fun _ => Chars.isSpace_of_mem_text⟩

section

variable {engine : Engine} {e : Expr}

theorem run_castDouble (postgres : engine.dialect = .postgres)
    (text : (e.run engine).Gives Act.IsGuarded (.value (.text cs)))
    (accepted : numericText.Accepts cs ∨ plainNumber.Accepts cs) :
    ((e.cast .double).run engine).GivesModerate := by
  obtain ⟨number, short, spelled⟩ := exists_short accepted
  refine ⟨some number.decimal.value, ?_, run_cast text ?_ ⟨cs, rfl, accepted⟩⟩
  · rintro _ ⟨⟩
    exact short.isModerate
  change ((Value.text cs).castDouble engine.dialect).map Datum.value = _
  rw [postgres, Value.castDouble, spelled, number.read?_text]
  rfl

theorem exists_run_regexMatch {allowed : Act → Prop} (stands : r.fits .whole = true)
    (value : (e.run engine).Gives allowed (.value w)) (plain : w = .null ∨ ∃ cs, w = .text cs) :
    ∃ truth, ((regexMatch e r).run engine).Gives allowed
        (.value (.ofTruth engine.dialect truth)) ∧
      (truth = some true → ∃ cs, w = .text cs ∧ r.Accepts cs) := by
  classical
  rcases plain with rfl | ⟨cs, rfl⟩
  · exact ⟨none, run_regexMatch_null value, by simp⟩
  · exact ⟨some (decide (r.Accepts cs)), run_regexMatch stands value decide_eq_true_iff,
      fun holds => ⟨cs, rfl, by simpa using holds⟩⟩

theorem exists_run_decoration (value : (e.run engine).Gives Act.IsGuarded (.value w))
    (plain : w = .null ∨ ∃ cs, w = .text cs) :
    ∃ bare, ((Expr.call "REGEXP_REPLACE" [e, .text decoration.text, .text "", .text "g"]).run
        engine).Gives Act.IsGuarded (.value bare) ∧ (bare = .null ∨ ∃ cs, bare = .text cs) := by
  have args := runEach_cons value (runEach_cons (run_text decoration.text)
    (runEach_cons (run_text "") (runEach_cons (run_text "g") runEach_nil)))
  rcases plain with rfl | ⟨cs, rfl⟩
  · exact ⟨.null, run_call (by decide) args rfl trivial, .inl rfl⟩
  · have spelled : Regex.ofText? (String.ofList decoration.text.toList) = some decoration := by rfl
    have digits : engine.apply "REGEXP_REPLACE" _ = some (.value (.text _)) :=
      (engine.apply_scalars (by decide) [.text cs, .text decoration.text.toList, .text [],
        .text ['g']]).trans (congrArg (Option.map Datum.value) (Value.apply_regexpReplace spelled))
    exact ⟨_, run_call (by decide) args digits trivial, .inr ⟨_, rfl⟩⟩

theorem runBranches_moderate {condition value : Expr} {rest : List Branch}
    (test : (condition.run engine).Gives Act.IsGuarded (.value (.ofTruth engine.dialect truth)))
    (taken : truth = some true → (value.run engine).GivesModerate)
    (passed : truth ≠ some true →
      (runBranches engine (runOptional engine none) rest).GivesModerate) :
    (runBranches engine (runOptional engine none) (⟨condition, value⟩ :: rest)).GivesModerate := by
  have counts := truth?_ofTruth engine.dialect truth
  by_cases holds : truth = some true
  · obtain ⟨number, moderate, gives⟩ := taken holds
    exact ⟨number, moderate, runBranches_cons test counts (fun _ => gives) (absurd holds ·)⟩
  · obtain ⟨number, moderate, gives⟩ := passed holds
    exact ⟨number, moderate, runBranches_cons test counts (absurd · holds) fun _ => gives⟩

theorem run_looseNumber (postgres : engine.dialect = .postgres)
    (value : (e.run engine).Gives Act.IsGuarded (.value v)) :
    ((looseNumber .postgres e).run engine).GivesModerate := by
  have text := run_castText value trivial
  have plain := castText_eq engine.shown v
  obtain ⟨bare, digits, plainDigits⟩ := exists_run_decoration text plain
  obtain ⟨isDate, date, -⟩ := exists_run_regexMatch (r := dateStart) rfl text plain
  obtain ⟨isNumeric, numeric, accepted⟩ := exists_run_regexMatch (r := numericText) rfl text plain
  obtain ⟨isPlain, whole, acceptedDigits⟩ :=
    exists_run_regexMatch (r := plainNumber) rfl digits plainDigits
  rw [looseNumber, Expr.caseWhen, Expr.run]
  refine runBranches_moderate date (fun _ => ?_) fun _ => ?_
  · rw [Expr.run]
    exact ⟨none, by simp, .quiet rfl⟩
  refine runBranches_moderate numeric (fun holds => ?_) fun _ => ?_
  · obtain ⟨cs, same, accepted⟩ := accepted holds
    exact run_castDouble postgres (same ▸ text) (.inl accepted)
  refine runBranches_moderate whole (fun holds => ?_) fun _ => ?_
  · obtain ⟨cs, same, accepted⟩ := acceptedDigits holds
    exact run_castDouble postgres (same ▸ digits) (.inr accepted)
  · rw [runBranches]
    exact ⟨none, by simp, runOptional_none⟩

end

open Classical in
theorem operands?_jsonNumber {db : Database} {scope : Database.Scope} {e : Expr}
    (aggregate : String) (value : e.Answers db scope (.value v))
    (cell : v = .null ∨ (db.jsonOf v).isSome) :
    ∃ query operands, jsonNumber .postgres aggregate e = .subquery query ∧
      query.operands? db scope = some operands ∧
      ∀ operand ∈ operands, ∃ cs, operand = .value (.text cs) ∧ numericText.Accepts cs := by
  obtain ⟨items, source⟩ := answers_asArray value cell
  let isText := regexMatch (.column none "__v") numericText
  have filtered : ∀ i, ∀ item ∈ items, answerFilter db
      (db.rowScope "jsonb_array_elements_text" "__el" ["__v"] false i item) (some isText) =
        some (decide ((item.text? db.write).map (fun cs => decide (numericText.Accepts cs)) =
          some true)) := fun i item _ =>
    answerFilter_some (answers_isNumericText db i item) (Value.holds?_ofTruth db.dialect _)
  obtain ⟨kept, found, results⟩ := exists_keep_mapM
    (p := fun row => answerFilter db row (some isText))
    (f := fun row => (Expr.column none "__v").answer db row) filtered
    fun i item _ _ => answers_element db i item
  refine ⟨_, _, rfl, Eq.trans ?_ results, ?_⟩
  · rw [Select.value, Select.of, Source.rows, Select.operands?, source]
    change ((Database.keep? (fun row => answerFilter db row (some isText)) _).bind _) = _
    rw [found]
    rfl
  · intro operand member
    obtain ⟨item, inside, rfl⟩ := List.mem_map.1 member
    have holds := of_decide_eq_true (List.mem_filter.1 inside).2
    obtain ⟨cs, text, accepted⟩ := Option.map_eq_some_iff.1 holds
    exact ⟨cs, by rw [text]; rfl, of_decide_eq_true accepted⟩

/--
A text that is accepted as a number spells zero or a magnitude from `10 ^ -299` to below
`10 ^ 299`, so that it is a finite double, and a zero only if the number is one. Nothing else is
cast to a number on Postgres, whether out of a value or out of the elements of a JSON cell.
-/
theorem guarded_casts_in_range :
    (∀ cs, numericText.Accepts cs ∨ plainNumber.Accepts cs →
      ∃ decimal significand exponent,
        Decimal.read? (Chars.strip Chars.isSpace cs) = some decimal ∧ IsModerate decimal.value ∧
        Double.ofDecimal decimal = .finite decimal.negative significand exponent ∧
        (significand = 0 ↔ decimal.value = 0)) ∧
    (∀ (engine : Engine) (e : Expr) (v : Value), engine.dialect = .postgres →
      (e.run engine).Gives Act.IsGuarded (.value v) →
      ((looseNumber .postgres e).run engine).GivesModerate) ∧
    ∀ (db : Database) (scope : Database.Scope) (e : Expr) (v : Value) (aggregate : String),
      e.Answers db scope (.value v) → v = .null ∨ (db.jsonOf v).isSome = true →
      ∃ query operands, jsonNumber .postgres aggregate e = .subquery query ∧
        query.operands? db scope = some operands ∧
        ∀ operand ∈ operands, ∃ cs, operand = .value (.text cs) ∧ numericText.Accepts cs := by
  refine ⟨?_, fun _ _ _ => run_looseNumber, fun _ _ _ _ => operands?_jsonNumber⟩
  intro cs accepted
  obtain ⟨number, short, spelled⟩ := exists_short accepted
  obtain ⟨significand, exponent, finite⟩ := Double.ofDecimal_of_isModerate short.isModerate
  exact ⟨number.decimal, significand, exponent, by rw [spelled, number.read?_text],
    short.isModerate, finite⟩

theorem guarded_casts_in_range_prices :
    numericText.Accepts "-.5e-99 ".toList ∧
      (∃ decimal, Decimal.read? (Chars.strip Chars.isSpace "-.5e-99 ".toList) = some decimal ∧
        IsModerate decimal.value) ∧
      ((looseNumber .postgres (.text "$ 12")).run
        (pricesDatabase .postgres).toEngine).GivesModerate ∧
      ∃ query operands, jsonNumber .postgres "SUM" (.text "[]") = .subquery query ∧
        query.operands? (pricesDatabase .postgres) .empty = some operands := by
  have accepted : numericText.Accepts "-.5e-99 ".toList := (accepts_numericText_iff _).2
    ⟨⟨some true, [], some ['5'], some ⟨'e', some true, ['9', '9'], by decide, by decide, by decide⟩,
      by decide, by decide, by decide⟩, ⟨by decide, by decide, by simp⟩, by decide⟩
  obtain ⟨decimal, _, _, read, moderate, -⟩ := guarded_casts_in_range.1 _ (.inl accepted)
  obtain ⟨query, operands, form, cast, -⟩ := guarded_casts_in_range.2.2 (pricesDatabase .postgres)
    .empty (.text "[]") _ "SUM" (.text "[]") (.inr rfl)
  exact ⟨accepted, ⟨decimal, read, moderate⟩,
    guarded_casts_in_range.2.1 _ (.text "$ 12") _ rfl (run_text _), query, operands, form, cast⟩

end SheetSql
