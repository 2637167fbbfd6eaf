import SheetSql.Coerce.Datetime
import SheetSql.Proofs.Meaning.Arithmetic
import SheetSql.Proofs.Meaning.Search
import SheetSql.Proofs.Moment.IsoParts
import SheetSql.Proofs.Moment.WallTime

namespace SheetSql

/-! Moments out of texts on Postgres. -/

open Coerce Format Steps

/-- Casts of texts that are numbers, and calls for dates and times that there are. -/
inductive Act.IsSafe : Act → Prop
  | null (type : SqlType) : IsSafe (.cast (.value .null) type)
  | text (operand : Datum) : IsSafe (.cast operand .text)
  | integer {cs : List Char} (digits : Decimal.isDigits cs = true) (filled : cs ≠ []) :
      IsSafe (.cast (.value (.text cs)) .integer)
  | double {cs : List Char} (number : (Decimal.read? cs).isSome) :
      IsSafe (.cast (.value (.text cs)) .double)
  | date {year month : Nat} (isMonth : IsMonth year month) :
      IsSafe (.call "make_date" (monthStart year month))
  | timestamp (time : WallTime) {second : Value} (number : second.number? = some time.second) :
      IsSafe (.call "make_timestamp" (time.args second))
  | call {function : String} (args : List Datum) (noDate : function ≠ "make_date")
      (noTime : function ≠ "make_timestamp") : IsSafe (.call function args)

def Act.MakesTimestamp : Act → Prop
  | .call function _ => function = "make_timestamp"
  | .cast _ _ => False

theorem Act.not_makesTimestamp (other : function ≠ "make_timestamp") :
    ¬(Act.call function args).MakesTimestamp := other

def isoCaptures (e : Expr) : Expr :=
  .call "regexp_match" [e.cast .text, .text isoRegex.text]

def isoGroup (e : Expr) (group : IsoGroup) : Expr :=
  (isoCaptures e).subscript (.int group.index)

def isoInt (e : Expr) (group : IsoGroup) : Expr := (isoGroup e group).cast .integer

def isoIntOrZero (e : Expr) (group : IsoGroup) : Expr := (isoInt e group).orElse 0

def isoDoubleOrZero (e : Expr) (group : IsoGroup) : Expr :=
  ((isoGroup e group).cast .double).orElse 0

def isoWallArgs (e : Expr) : List Expr :=
  [isoInt e .year, isoInt e .month, isoInt e .day, isoIntOrZero e .hour, isoIntOrZero e .minute,
   isoDoubleOrZero e .second + isoDoubleOrZero e .fraction]

def isoSign (e : Expr) : Expr := .ite ((isoGroup e .offsetSign).eq (.text "-")) (.int (-1)) 1

def isoShift (e : Expr) : Expr :=
  isoSign e * (isoIntOrZero e .offsetHours * 60 + isoIntOrZero e .offsetMinutes)

def isoZone (clock : WallClock) (e : Expr) : Expr :=
  .ite (isoGroup e .zone).isNull (.text clock.zone) (.text "UTC")

def isoMoment (clock : WallClock) (e : Expr) : Expr :=
  (Expr.call "make_timestamp" (isoWallArgs e) - interval [0, 0, 0, 0, 0, isoShift e]).atTimeZone
    (isoZone clock e)

/-- The moment of a text in the ISO form, or null if its day is none of the calendar. -/
def isoInMonth (clock : WallClock) (e : Expr) : Expr :=
  .caseWhen
    [⟨(isoInt e .year).eq 0, .null⟩,
     ⟨(isoInt e .day).le (lastDay (isoInt e .year) (isoInt e .month)), isoMoment clock e⟩]
    none

theorem parseIso_eq (clock : WallClock) (e : Expr) :
    parseIso .postgres clock e =
      .caseWhen [⟨regexMatch (e.cast .text) isoRegex, isoInMonth clock e⟩] none := rfl

def Spells (holds : ℚ → Prop) (cs : List Char) : Prop :=
  ∃ number : Written, number.text = cs ∧ holds number.decimal.value

theorem spells_of_isNumber (number : IsNumber low high cs) :
    Spells (fun q => low ≤ q ∧ q ≤ high) cs := by
  obtain ⟨filled, digits, least, most⟩ := number
  obtain ⟨written, text, decimal⟩ := exists_written_of_isDigits digits filled
  have value : written.decimal.value = Decimal.natOf cs := by
    rw [decimal]
    simp [Decimal.value]
  refine ⟨written, text, ?_⟩
  rw [value]
  exact ⟨by exact_mod_cast least, by exact_mod_cast most⟩

theorem spells_of_isFraction (fraction : IsFraction cs) : Spells (fun q => 0 ≤ q ∧ q < 1) cs := by
  obtain ⟨digits, rfl, isDigits, least, -⟩ := fraction
  have filled : digits ≠ [] := List.ne_nil_of_length_pos least
  let number : Written := ⟨none, [], some digits, none, rfl, isDigits, .inr filled⟩
  have value : number.decimal.value = Decimal.natOf digits / 10 ^ digits.length := by
    simp [number, Written.decimal, Written.exponent, Decimal.value, div_eq_mul_inv]
  refine ⟨number, ?_, ?_⟩
  · simp [number, Written.text, Written.signText, Written.mantissa, Written.fractionText,
      Written.powerText]
  · have small := natOf_lt_of_isDigits isDigits
    rw [value]
    constructor
    · positivity
    · rw [div_lt_one (by positivity)]
      exact_mod_cast small

def numberAt (captures : Captures) (group : IsoGroup) : Nat :=
  ((captures.at? group.index).map Decimal.natOf).getD 0

theorem numberAt_of_at? {captures : Captures} {group : IsoGroup}
    (found : captures.at? group.index = some cs) : numberAt captures group = Decimal.natOf cs := by
  rw [numberAt, found]
  rfl

def isoDate (captures : Captures) : Date :=
  ⟨numberAt captures .year, numberAt captures .month, numberAt captures .day⟩

def IsDay (captures : Captures) : Prop :=
  1 ≤ numberAt captures .year ∧ (isoDate captures).IsReal

theorem strip_of_text (number : Written) :
    Chars.strip Chars.isSpace number.text = number.text :=
  Chars.strip_eq_self fun _ => Chars.isSpace_of_mem_text

section

variable {engine : Engine} (postgres : engine.dialect = .postgres) {allowed : Act → Prop}
  (may : ∀ {act : Act}, act.IsSafe → ¬act.MakesTimestamp → allowed act) {e : Expr}
  {captures : Captures}
  (groups : ((isoCaptures e).run engine).Gives allowed
    (.texts (Engine.groupTexts isoRegex.groups captures)))

include groups

theorem run_isoGroup (group : IsoGroup) :
    ((isoGroup e group).run engine).Gives allowed (.ofText? (captures.at? group.index)) := by
  refine run_subscript groups (run_nat group.index) (Engine.subscript_groupTexts ?_ ?_ captures)
  · cases group <;> decide
  · cases group <;> decide

include postgres may

theorem run_isoInt {group : IsoGroup} (found : captures.at? group.index = some cs)
    (number : IsNumber low high cs) (bound : high < 2147483648) :
    ((isoInt e group).run engine).Gives allowed (.value (.int (numberAt captures group))) := by
  obtain ⟨filled, digits, -, most⟩ := number
  have value := run_isoGroup groups group
  rw [found] at value
  rw [numberAt_of_at? found]
  refine run_cast value ?_ (may (.integer digits filled) id)
  obtain ⟨written, text, -⟩ := exists_written_of_isDigits digits filled
  have whole : Chars.strip Chars.isSpace cs = cs := by
    rw [← text]
    exact strip_of_text written
  have small : Decimal.natOf cs < 2147483648 := by omega
  rw [Engine.cast, postgres]
  change (Value.castInteger (.text cs)).map Datum.value = _
  rw [Value.castInteger, whole, if_pos ⟨filled, digits, small⟩]
  rfl

theorem run_isoIntOrZero (group : IsoGroup)
    (number : ∀ {cs}, captures.at? group.index = some cs → IsNumber 0 high cs)
    (bound : high < 2147483648) :
    ∃ n : Nat, n ≤ high ∧
      ((isoIntOrZero e group).run engine).Gives allowed (.value (.int n)) := by
  cases found : captures.at? group.index with
  | none =>
    have value := run_isoGroup groups group
    rw [found] at value
    have null : ((isoInt e group).run engine).Gives allowed (.value .null) := by
      refine run_cast value ?_ (may (.null _) id)
      rw [Engine.cast, postgres]
      rfl
    exact ⟨0, Nat.zero_le _, run_orElse null (run_nat 0) rfl⟩
  | some cs =>
    have isNumber := number found
    have most := isNumber.le_high
    rw [← numberAt_of_at? found] at most
    exact ⟨numberAt captures group, most,
      run_orElse (run_isoInt postgres may groups found isNumber bound) (run_nat 0) rfl⟩

theorem run_isoDoubleOrZero (group : IsoGroup) (zero : holds 0)
    (number : ∀ {cs}, captures.at? group.index = some cs → Spells holds cs) :
    ∃ v q, ((isoDoubleOrZero e group).run engine).Gives allowed (.value v) ∧
      v.number? = some q ∧ holds q := by
  have value := run_isoGroup groups group
  cases found : captures.at? group.index with
  | none =>
    rw [found] at value
    have null : (((isoGroup e group).cast .double).run engine).Gives allowed (.value .null) :=
      run_cast value rfl (may (.null _) id)
    exact ⟨.int 0, 0, run_orElse null (run_nat 0) rfl, rfl, zero⟩
  | some cs =>
    rw [found] at value
    obtain ⟨written, rfl, property⟩ := number found
    have read := written.read?_text
    have isNumber : (((isoGroup e group).cast .double).run engine).Gives allowed
        (.value (.real written.decimal.value)) := by
      refine run_cast value ?_ (may (.double ?_) id)
      · change ((Value.text written.text).castDouble engine.dialect).map Datum.value = _
        rw [postgres, Value.castDouble]
        simp only [strip_of_text, read]
        rfl
      · rw [read]
        rfl
    exact ⟨_, _, run_orElse isNumber (run_nat 0) rfl, rfl, property⟩

variable (parts : IsoParts captures)

include parts

theorem run_isoNumber (group : IsoGroup) (certain : group ∈ [.year, .month, .day])
    (number : ∀ {cs}, group.Accepts cs → IsNumber low high cs) (bound : high < 2147483648) :
    (low ≤ numberAt captures group ∧ numberAt captures group ≤ high) ∧
      ((isoInt e group).run engine).Gives allowed (.value (.int (numberAt captures group))) := by
  obtain ⟨cs, found⟩ := Option.isSome_iff_exists.1 (parts.certain group certain)
  have isNumber := number (parts.accepts found)
  refine ⟨?_, run_isoInt postgres may groups found isNumber bound⟩
  rw [numberAt_of_at? found]
  exact ⟨isNumber.low_le, isNumber.le_high⟩

theorem run_isoSecond :
    ∃ v q, ((isoDoubleOrZero e .second + isoDoubleOrZero e .fraction).run engine).Gives allowed
        (.value v) ∧ v.number? = some q ∧ 0 ≤ q ∧ q < 60 := by
  obtain ⟨whole, p, runWhole, isWhole, wholeLow, wholeHigh⟩ :=
    run_isoDoubleOrZero postgres may groups .second ⟨by simp, by simp⟩ fun found =>
      spells_of_isNumber (show IsNumber 0 59 _ from parts.accepts found)
  obtain ⟨fraction, q, runFraction, isFraction, fractionLow, fractionHigh⟩ :=
    run_isoDoubleOrZero postgres may groups .fraction ⟨le_refl 0, one_pos⟩ fun found =>
      spells_of_isFraction (parts.accepts found)
  obtain ⟨sum, added, isSum, -⟩ := Value.arithmetic_add isWhole isFraction
  refine ⟨sum, p + q, run_binary runWhole runFraction ?_, isSum, ?_, ?_⟩
  · change Option.map Datum.value (Value.arithmetic (· + ·) (· + ·) whole fraction) = _
    rw [added]
    rfl
  · push_cast at wholeLow
    linarith
  · push_cast at wholeHigh
    linarith

theorem run_isoWallArgs (isDay : IsDay captures) :
    ∃ (time : WallTime) (second : Value), time.date = isoDate captures ∧
      second.number? = some time.second ∧
      (runEach engine (isoWallArgs e)).Gives allowed (time.args second) := by
  obtain ⟨⟨-, yearLe⟩, year⟩ :=
    run_isoNumber postgres may groups parts .year (by simp) id (by decide)
  obtain ⟨-, month⟩ := run_isoNumber postgres may groups parts .month (by simp) id (by decide)
  obtain ⟨-, day⟩ := run_isoNumber postgres may groups parts .day (by simp) id (by decide)
  obtain ⟨hour, hourLe, runHour⟩ :=
    run_isoIntOrZero postgres may groups .hour (fun found => parts.accepts found) (by decide)
  obtain ⟨minute, minuteLe, runMinute⟩ :=
    run_isoIntOrZero postgres may groups .minute (fun found => parts.accepts found) (by decide)
  obtain ⟨second, q, runSecond, isSecond, low, high⟩ := run_isoSecond postgres may groups parts
  have yearPos : 1 ≤ (isoDate captures).year := by
    have first := isDay.1
    change (1 : Int) ≤ numberAt captures .year
    omega
  have yearMost : (isoDate captures).year ≤ 9999 := by
    change (numberAt captures .year : Int) ≤ 9999
    omega
  exact ⟨⟨isoDate captures, hour, minute, q, yearPos, yearMost, isDay.2, hourLe, minuteLe, low,
    high⟩, second, rfl, isSecond, runEach_cons year (runEach_cons month (runEach_cons day
    (runEach_cons runHour (runEach_cons runMinute (runEach_cons runSecond runEach_nil)))))⟩

end

theorem mapM_int? (values : List Int) :
    (values.map fun n => Datum.value (.int n)).mapM Datum.int? = some values := by
  induction values with
  | nil => rfl
  | cons n rest ih =>
    rw [List.map_cons, List.mapM_cons, ih]
    rfl

section

variable {engine : Engine} {allowed : Act → Prop}
  (may : ∀ {act : Act}, act.IsSafe → ¬act.MakesTimestamp → allowed act)

include may

theorem run_interval (values : List Int)
    (each : (runEach engine amounts).Gives allowed (values.map fun n => .value (.int n)))
    (same : .ofAmounts values = span) :
    ((interval amounts).run engine).Gives allowed (.span span) := by
  refine run_call (by decide) each ?_
    (may (.call _ (by decide) (by decide)) (Act.not_makesTimestamp (by decide)))
  have known : (values.map fun n => Datum.value (.int n)).any Datum.isNull = false := by
    simp [Datum.isNull]
  change Engine.strict _ (Engine.makeInterval _) = _
  rw [Engine.strict, known, if_neg (by decide), Engine.makeInterval, mapM_int?, ← same]
  rfl

theorem run_lastDay {yearExpr monthExpr : Expr} (isMonth : IsMonth year month)
    (runYear : (yearExpr.run engine).Gives allowed (.value (.int year)))
    (runMonth : (monthExpr.run engine).Gives allowed (.value (.int month))) :
    ((lastDay yearExpr monthExpr).run engine).Gives allowed
      (.value (.int (Date.daysInMonth year month))) := by
  have start : ((Expr.call "make_date" [yearExpr, monthExpr, 1]).run engine).Gives allowed
      (.stamp ⟨⟨year, month, 1⟩, 0⟩) := by
    refine run_call (by decide) (runEach_cons runYear (runEach_cons runMonth
      (runEach_cons (run_nat 1) runEach_nil))) ?_
      (may (.date isMonth) (Act.not_makesTimestamp (by decide)))
    change Engine.strict (monthStart year month) (Engine.makeDate (monthStart year month)) = _
    rw [makeDate_monthStart isMonth]
    rfl
  have oneMonth : ((interval [0, 1]).run engine).Gives allowed (.span ⟨1, 0, 0⟩) :=
    run_interval may [0, 1] (runEach_cons (run_nat 0) (runEach_cons (run_nat 1) runEach_nil))
      (by simp [Span.ofAmounts])
  have oneDay : ((interval [0, 0, 0, 1]).run engine).Gives allowed (.span ⟨0, 1, 0⟩) :=
    run_interval may [0, 0, 0, 1] (runEach_cons (run_nat 0) (runEach_cons (run_nat 0)
      (runEach_cons (run_nat 0) (runEach_cons (run_nat 1) runEach_nil)))) (by simp [Span.ofAmounts])
  have next : ((Expr.call "make_date" [yearExpr, monthExpr, 1] + interval [0, 1]).run
      engine).Gives allowed (.stamp ⟨Date.nextMonth year month, 0⟩) :=
    run_binary start oneMonth (stored_nextMonth isMonth)
  have last : ((Expr.call "make_date" [yearExpr, monthExpr, 1] + interval [0, 1] -
      interval [0, 0, 0, 1]).run engine).Gives allowed
      (.stamp ⟨⟨year, month, Date.daysInMonth year month⟩, 0⟩) :=
    run_binary next oneDay (stored_lastDay isMonth)
  exact run_extract last rfl

variable (postgres : engine.dialect = .postgres) {e : Expr} {captures : Captures}
  (groups : ((isoCaptures e).run engine).Gives allowed
    (.texts (Engine.groupTexts isoRegex.groups captures)))

include groups

omit may in
theorem run_isoSign :
    ∃ n : Int, (n = 1 ∨ n = -1) ∧ ((isoSign e).run engine).Gives allowed (.value (.int n)) := by
  have value := run_isoGroup groups .offsetSign
  have minus : ((Expr.int (-1)).run engine).Gives allowed (.value (.int (-1))) := by
    have read : Decimal.read? (toString (-1 : Int)).toList = some ⟨true, 1, 0⟩ := by decide
    exact run_number read
  have test : ∃ truth, (((isoGroup e .offsetSign).eq (.text "-")).run engine).Gives allowed
      (.value (.ofTruth engine.dialect truth)) := by
    cases found : captures.at? IsoGroup.offsetSign.index with
    | none =>
      rw [found] at value
      exact ⟨none, run_binary value (run_text "-") rfl⟩
    | some cs =>
      rw [found] at value
      exact ⟨some (cs == ['-']), run_binary value (run_text "-") rfl⟩
  obtain ⟨truth, test⟩ := test
  have counts := truth?_ofTruth engine.dialect truth
  by_cases isMinus : truth = some true
  · refine ⟨-1, .inr rfl, run_ite test counts (fun _ => minus) ?_⟩
    intro other
    exact absurd isMinus other
  · refine ⟨1, .inl rfl, run_ite test counts ?_ fun _ => run_nat 1⟩
    intro other
    exact absurd other isMinus

omit may in
theorem run_isoZone (clock : WallClock) :
    ∃ zone, ((isoZone clock e).run engine).Gives allowed (.value (.text zone)) := by
  have test := run_nullTest false (run_isoGroup groups .zone)
  have counts : ∀ b, (Value.ofBool engine.dialect b).truth? engine.dialect = some (some b) :=
    fun b => truth?_ofTruth engine.dialect (some b)
  by_cases missing : (Datum.ofText? (captures.at? IsoGroup.zone.index)).isNull = true
  · refine ⟨clock.zone.toList, run_ite test (counts _) (fun _ => run_text _) ?_⟩
    intro other
    rw [missing] at other
    exact absurd rfl other
  · refine ⟨"UTC".toList, run_ite test (counts _) ?_ fun _ => run_text _⟩
    intro taken
    rw [Bool.eq_false_iff.2 missing] at taken
    cases taken

include may postgres

variable (parts : IsoParts captures)

include parts

theorem run_isoShift :
    ∃ n : Int, (-6039 ≤ n ∧ n ≤ 6039) ∧
      ((isoShift e).run engine).Gives allowed (.value (.int n)) := by
  obtain ⟨sign, isSign, runSign⟩ := run_isoSign groups
  obtain ⟨hours, hoursLe, runHours⟩ :=
    run_isoIntOrZero postgres may groups .offsetHours (fun found => parts.accepts found)
      (by decide)
  obtain ⟨minutes, minutesLe, runMinutes⟩ :=
    run_isoIntOrZero postgres may groups .offsetMinutes (fun found => parts.accepts found)
      (by decide)
  refine ⟨sign * (hours * 60 + minutes), ?_, ?_⟩
  · rcases isSign with rfl | rfl <;> omega
  · exact run_binary runSign (run_binary (run_binary runHours (run_nat 60) rfl) runMinutes rfl) rfl

theorem run_isoMoment (clock : WallClock) {time : WallTime} {second : Value}
    (number : second.number? = some time.second)
    (args : (runEach engine (isoWallArgs e)).Gives allowed (time.args second))
    (mayTime : allowed (.call "make_timestamp" (time.args second))) :
    ∃ wall zone, ((isoMoment clock e).run engine).Gives allowed (.moment wall zone) := by
  obtain ⟨zone, runZone⟩ := run_isoZone groups clock
  obtain ⟨shift, ⟨least, most⟩, runShift⟩ := run_isoShift may postgres groups parts
  have start := run_call (by decide) args (time.apply_args engine number) mayTime
  have span : ((interval [0, 0, 0, 0, 0, isoShift e]).run engine).Gives allowed
      (.span ⟨0, 0, shift * 60⟩) :=
    run_interval may [0, 0, 0, 0, 0, shift] (runEach_cons (run_nat 0) (runEach_cons (run_nat 0)
      (runEach_cons (run_nat 0) (runEach_cons (run_nat 0) (runEach_cons (run_nat 0)
        (runEach_cons runShift runEach_nil)))))) (by simp [Span.ofAmounts])
  have low : (-432000 : ℚ) ≤ -(shift * 60) := by
    have : (shift : ℚ) ≤ 6039 := by exact_mod_cast most
    linarith
  have high : -((shift : ℚ) * 60) ≤ 432000 := by
    have : (-6039 : ℚ) ≤ shift := by exact_mod_cast least
    linarith
  have shifted : ((Expr.call "make_timestamp" (isoWallArgs e) -
      interval [0, 0, 0, 0, 0, isoShift e]).run engine).Gives allowed
      (.stamp (time.stamp.add ⟨0, 0, -(shift * 60)⟩)) :=
    run_binary start span (time.stored_add low high)
  exact ⟨_, zone, run_atTimeZone shifted runZone rfl⟩

omit may postgres groups parts in
theorem does_isoMoment (clock : WallClock)
    (each : (runEach engine (isoWallArgs e)).Gives allowed args) :
    ((isoMoment clock e).run engine).Does (.call "make_timestamp" args) :=
  does_atTimeZone_left (does_binary_left (does_call (by decide) each))

theorem run_isYearZero :
    (((isoInt e .year).eq 0).run engine).Gives allowed
      (.value (.ofTruth engine.dialect (some (decide (numberAt captures .year = 0))))) := by
  obtain ⟨-, year⟩ := run_isoNumber postgres may groups parts .year (by simp) id (by decide)
  refine run_binary year (run_nat 0) ?_
  have same : (((numberAt captures .year : Int) : ℚ) == ((0 : Nat) : Int)) =
      decide (numberAt captures .year = 0) := by
    rw [Bool.eq_iff_iff]
    simp
  rw [← same]
  rfl

theorem run_isDayInMonth (first : 1 ≤ numberAt captures .year) :
    (((isoInt e .day).le (lastDay (isoInt e .year) (isoInt e .month))).run engine).Gives allowed
      (.value (.ofTruth engine.dialect (some (decide (isoDate captures).IsReal)))) := by
  obtain ⟨⟨-, yearLe⟩, year⟩ :=
    run_isoNumber postgres may groups parts .year (by simp) id (by decide)
  obtain ⟨⟨monthPos, monthLe⟩, month⟩ :=
    run_isoNumber postgres may groups parts .month (by simp) id (by decide)
  obtain ⟨⟨dayPos, -⟩, day⟩ :=
    run_isoNumber postgres may groups parts .day (by simp) id (by decide)
  have last := run_lastDay may ⟨first, yearLe, monthPos, monthLe⟩ year month
  refine run_binary day last ?_
  have real : (isoDate captures).IsReal ↔ numberAt captures .day ≤
      Date.daysInMonth (numberAt captures .year) (numberAt captures .month) :=
    ⟨fun isReal => isReal.day_le, fun dayLe => ⟨monthPos, monthLe, dayPos, dayLe⟩⟩
  have same : (!decide (((Date.daysInMonth (numberAt captures .year)
      (numberAt captures .month) : Int) : ℚ) < (numberAt captures .day : Int))) =
      decide (isoDate captures).IsReal := by
    rw [Bool.eq_iff_iff]
    simp [real]
  rw [← same]
  rfl

theorem run_isoInMonth (noDay : ¬IsDay captures → result = .value .null)
    (moment : IsDay captures → ((isoMoment clock e).run engine).Gives allowed result) :
    ((isoInMonth clock e).run engine).Gives allowed result := by
  refine run_caseWhen (runBranches_cons (run_isYearZero may postgres groups parts)
    (truth?_ofTruth engine.dialect _) ?_ ?_)
  · intro isZero
    have zero := of_decide_eq_true (Option.some.inj isZero)
    rw [noDay fun isDay => by have := isDay.1; omega, Expr.run]
    exact .quiet rfl
  · intro notZero
    have first : 1 ≤ numberAt captures .year := by
      refine Nat.one_le_iff_ne_zero.2 fun isZero => notZero ?_
      rw [decide_eq_true isZero]
    refine runBranches_cons (run_isDayInMonth may postgres groups parts first)
      (truth?_ofTruth engine.dialect _) ?_ ?_
    · intro isReal
      exact moment ⟨first, of_decide_eq_true (Option.some.inj isReal)⟩
    · intro notReal
      have none : result = .value .null := by
        refine noDay fun isDay => notReal ?_
        rw [decide_eq_true isDay.2]
      rw [none, runBranches]
      exact runOptional_none

theorem does_isoInMonth {clock : WallClock} {act : Act} (isDay : IsDay captures)
    (does : ((isoMoment clock e).run engine).Does act) :
    ((isoInMonth clock e).run engine).Does act := by
  refine does_caseWhen (does_branches_cons (run_isYearZero may postgres groups parts)
    (truth?_ofTruth engine.dialect _) ?_ ?_)
  · intro isZero
    have first := isDay.1
    have zero := of_decide_eq_true (Option.some.inj isZero)
    omega
  · intro _
    refine does_branches_cons (run_isDayInMonth may postgres groups parts isDay.1)
      (truth?_ofTruth engine.dialect _) (fun _ => does) ?_
    intro notReal
    exact absurd (congrArg some (decide_eq_true isDay.2)) notReal

end

section

variable {engine : Engine} {allowed : Act → Prop}
  (may : ∀ {act : Act}, act.IsSafe → ¬act.MakesTimestamp → allowed act) {e : Expr}
  {cs : List Char}

theorem fits_isoRegex : isoRegex.fits .whole = true := rfl

include may

theorem run_isoCaptures (text : ((e.cast .text).run engine).Gives allowed (.value (.text cs)))
    (found : engine.apply "regexp_match" [.value (.text cs), .value (.text isoRegex.text.toList)] =
      some (.texts (Engine.groupTexts isoRegex.groups captures))) :
    ((isoCaptures e).run engine).Gives allowed
      (.texts (Engine.groupTexts isoRegex.groups captures)) :=
  run_call (by decide) (runEach_cons text (runEach_cons (run_text _) runEach_nil)) found
    (may (.call _ (by decide) (by decide)) (Act.not_makesTimestamp (by decide)))

variable (postgres : engine.dialect = .postgres) (clock : WallClock)

omit may in
theorem run_parseIso (test : ((regexMatch (e.cast .text) isoRegex).run engine).Gives allowed holds)
    (counts : holds.scalar?.bind (Value.truth? engine.dialect) = some truth)
    (taken : truth = some true → ((isoInMonth clock e).run engine).Gives allowed result)
    (passed : truth ≠ some true → result = .value .null) :
    ((parseIso .postgres clock e).run engine).Gives allowed result := by
  rw [parseIso_eq]
  refine run_caseWhen (runBranches_cons test counts taken ?_)
  intro other
  rw [passed other, runBranches]
  exact runOptional_none

omit may in
theorem run_parseIso_of_null (null : ((e.cast .text).run engine).Gives allowed (.value .null)) :
    ((parseIso .postgres clock e).run engine).Gives allowed (.value .null) :=
  run_parseIso clock (run_regexMatch_null null) (truth?_ofTruth engine.dialect none) nofun
    fun _ => rfl

omit may in
theorem run_parseIso_of_not_accepts
    (text : ((e.cast .text).run engine).Gives allowed (.value (.text cs)))
    (other : ¬isoRegex.Accepts cs) :
    ((parseIso .postgres clock e).run engine).Gives allowed (.value .null) := by
  have isIso := run_regexMatch fits_isoRegex text (show false = true ↔ _ by simpa using other)
  exact run_parseIso clock isIso (truth?_ofTruth engine.dialect (some false)) nofun fun _ => rfl

variable {captures : Captures}
  (text : ((e.cast .text).run engine).Gives allowed (.value (.text cs)))
  (matched : isoRegex.Matches Chars.isSpace cs captures)
  (found : engine.apply "regexp_match" [.value (.text cs), .value (.text isoRegex.text.toList)] =
    some (.texts (Engine.groupTexts isoRegex.groups captures)))

include text matched found postgres

theorem run_parseIso_of_not_isDay (noDay : ¬IsDay captures) :
    ((parseIso .postgres clock e).run engine).Gives allowed (.value .null) := by
  have isIso := run_regexMatch fits_isoRegex text (iff_of_true rfl ⟨captures, matched⟩)
  refine run_parseIso clock isIso (truth?_ofTruth engine.dialect (some true)) ?_ fun _ => rfl
  intro _
  exact run_isoInMonth may postgres (run_isoCaptures may text found) (isoParts_of_matches matched)
    (fun _ => rfl) fun isDay => absurd isDay noDay

theorem run_parseIso_of_isDay (isDay : IsDay captures)
    (mayTime : ∀ {time : WallTime} {second : Value}, second.number? = some time.second →
      allowed (.call "make_timestamp" (time.args second))) :
    ∃ (time : WallTime) (second : Value) (wall : Stamp) (zone : List Char),
      time.date = isoDate captures ∧ second.number? = some time.second ∧
      ((parseIso .postgres clock e).run engine).Does
        (.call "make_timestamp" (time.args second)) ∧
      ((parseIso .postgres clock e).run engine).Gives allowed (.moment wall zone) := by
  have groups := run_isoCaptures may text found
  have parts := isoParts_of_matches matched
  obtain ⟨time, second, date, number, args⟩ := run_isoWallArgs postgres may groups parts isDay
  obtain ⟨wall, zone, moment⟩ :=
    run_isoMoment may postgres groups parts clock number args (mayTime number)
  have isIso := run_regexMatch fits_isoRegex text (iff_of_true rfl ⟨captures, matched⟩)
  have counts := truth?_ofTruth engine.dialect (some true)
  refine ⟨time, second, wall, zone, date, number, ?_, ?_⟩
  · rw [parseIso_eq]
    refine does_caseWhen (does_branches_cons isIso counts ?_ fun other => absurd rfl other)
    intro _
    exact does_isoInMonth may postgres groups parts isDay (does_isoMoment clock args)
  · refine run_parseIso clock isIso counts ?_ fun other => absurd rfl other
    intro _
    exact run_isoInMonth may postgres groups parts (fun noDay => absurd isDay noDay) fun _ => moment

end

def Value.NamesDay (shown : ℚ → List Char) (v : Value) (date : Date) : Prop :=
  ∃ cs captures, v.castText shown = .text cs ∧ isoRegex.Matches Chars.isSpace cs captures ∧
    date = isoDate captures

/--
No value raises an error. There is no moment of a value that names no day of the calendar, and then
no time is made. Otherwise a time is made that there is.
-/
theorem parseIso_isSafe {engine : Engine} (postgres : engine.dialect = .postgres)
    (clock : WallClock) {e : Expr} {v : Value} {before : List Act}
    (value : e.run engine = some (.value v, before)) :
    (∃ acts, (parseIso .postgres clock e).run engine = some (.value .null, acts) ∧
        (∀ act ∈ acts, act ∈ before ∨ act.IsSafe ∧ ¬act.MakesTimestamp) ∧
        ((∀ date, ¬v.NamesDay engine.shown date) ∨
          ∃ date, v.NamesDay engine.shown date ∧ ¬(1 ≤ date.year ∧ date.IsReal))) ∨
      ∃ acts wall zone, (parseIso .postgres clock e).run engine = some (.moment wall zone, acts) ∧
        (∀ act ∈ acts, act ∈ before ∨ act.IsSafe) ∧
        ∃ (time : WallTime) (second : Value), v.NamesDay engine.shown time.date ∧
          second.number? = some time.second ∧
          .call "make_timestamp" (time.args second) ∈ acts := by
  let noTime : Act → Prop := fun act => act ∈ before ∨ act.IsSafe ∧ ¬act.MakesTimestamp
  have may : ∀ {act : Act}, act.IsSafe → ¬act.MakesTimestamp → noTime act :=
    fun safe makesNone => .inr ⟨safe, makesNone⟩
  have text : ((e.cast .text).run engine).Gives noTime (.value (v.castText engine.shown)) :=
    run_castText ⟨before, value, fun _ => .inl⟩ (may (.text _) id)
  rcases castText_eq engine.shown v with null | ⟨cs, isText⟩
  · rw [null] at text
    obtain ⟨acts, run, each⟩ := run_parseIso_of_null clock text
    refine .inl ⟨acts, run, each, .inl ?_⟩
    intro date named
    obtain ⟨cs, _, isText, -⟩ := named
    rw [null] at isText
    cases isText
  rw [isText] at text
  by_cases accepts : isoRegex.Accepts cs
  · obtain ⟨captures, matched, found⟩ := exists_of_accepts engine fits_isoRegex accepts
    have named : v.NamesDay engine.shown (isoDate captures) :=
      ⟨cs, captures, isText, matched, rfl⟩
    by_cases isDay : IsDay captures
    · have safe : ∀ {act : Act}, act.IsSafe → ¬act.MakesTimestamp → act ∈ before ∨ act.IsSafe :=
        fun isSafe _ => .inr isSafe
      obtain ⟨time, second, wall, zone, date, number, does, acts, run, each⟩ :=
        run_parseIso_of_isDay safe postgres clock (text.imp fun _ => Or.imp_right And.left)
          matched found isDay fun number => .inr (.timestamp _ number)
      rw [← date] at named
      exact .inr ⟨acts, wall, zone, run, each, time, second, named, number, does _ acts run⟩
    · obtain ⟨acts, run, each⟩ :=
        run_parseIso_of_not_isDay may postgres clock text matched found isDay
      refine .inl ⟨acts, run, each, .inr ⟨_, named, ?_⟩⟩
      intro isReal
      exact isDay ⟨Int.ofNat_le.1 isReal.1, isReal.2⟩
  · obtain ⟨acts, run, each⟩ := run_parseIso_of_not_accepts clock text accepts
    refine .inl ⟨acts, run, each, .inl ?_⟩
    intro date named
    obtain ⟨ds, captures, sameText, matched, -⟩ := named
    rw [isText] at sameText
    cases sameText
    exact accepts ⟨captures, matched⟩

/-- A leap day, with an offset that leads to the day before. -/
theorem parseIso_isSafe_leapDay :
    ∃ result acts,
      (parseIso .postgres ⟨"Europe/Paris", 60⟩ (.text "2024-02-29T01:30:59.5+02:00")).run
          (Engine.ofRow ⟨.postgres, fun _ => .null, fun _ => false, fun _ => []⟩ fun _ => none) =
        some (result, acts) ∧ ∀ act ∈ acts, act.IsSafe := by
  have value : (Expr.text "2024-02-29T01:30:59.5+02:00").run
      (Engine.ofRow ⟨.postgres, fun _ => .null, fun _ => false, fun _ => []⟩ fun _ => none) =
      some (.value (.text "2024-02-29T01:30:59.5+02:00".toList), []) := by
    rw [Expr.run]
    rfl
  rcases parseIso_isSafe rfl ⟨"Europe/Paris", 60⟩ value with
    ⟨acts, run, each, -⟩ | ⟨acts, _, _, run, each, -⟩
  · exact ⟨_, acts, run, fun act member => ((each act member).resolve_left nofun).1⟩
  · exact ⟨_, acts, run, fun act member => (each act member).resolve_left nofun⟩

end SheetSql
