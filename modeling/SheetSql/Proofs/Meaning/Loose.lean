import SheetSql.Proofs.Meaning.Eval
import SheetSql.Proofs.Meaning.Spelled

namespace SheetSql

/-! The number that a value spells once its decoration is gone, as each engine evaluates it. -/

open Coerce

def spelled? (cs : List Char) : Option ℚ := (Decimal.read? cs).map Decimal.value

def plainText? (cs : List Char) : Option ℚ := if cs.all isNumeric then spelled? cs else none

def dateShape : Glob :=
  List.replicate 4 .digit ++ [.char '-', .digit, .anyRun, .char '-', .digit, .anyRun]

def decorationChars : List Char := [',', '_', ' ', '$', '€', '£', '¥', '%']

def Regex.Accepts (r : Regex) (cs : List Char) : Prop :=
  ∃ captures, r.Matches Chars.isSpace cs captures

open Classical in
/-- The number that a text spells loosely. A date is no number. -/
noncomputable def looseText? : Dialect → List Char → Option ℚ
  | .postgres, cs =>
    if dateStart.Accepts cs then none
    else if numericText.Accepts cs then spelled? (Chars.strip Chars.isSpace cs)
    else if plainNumber.Accepts (cs.filter isNumeric) then spelled? (cs.filter isNumeric)
    else none
  | .sqlite, cs =>
    let trimmed := Chars.strip (· == ' ') cs
    if dateShape.accepts trimmed then none
    else plainText? (trimmed.filter fun c => !decorationChars.contains c)

def Value.ofNumber : Option ℚ → Value
  | none => .null
  | some q => .real q

theorem plainText?_of_isPlain (plain : IsPlain cs) :
    plainText? cs = some (Chars.leadingNumber cs) := by
  obtain ⟨decimal, read⟩ := (isPlain_iff_read? plain.numeric).1 plain
  rw [plainText?, if_pos (List.all_eq_true.2 plain.numeric), spelled?, read,
    Chars.leadingNumber_of_read? read]
  rfl

theorem plainText?_of_not_isPlain (other : ¬IsPlain cs) : plainText? cs = none := by
  rw [plainText?]
  split
  · next numeric =>
      have unread : Decimal.read? cs = none := by
        apply Option.eq_none_iff_forall_ne_some.2
        intro decimal read
        exact other ((isPlain_iff_read? (List.all_eq_true.1 numeric)).2 ⟨decimal, read⟩)
      rw [spelled?, unread]
      rfl
  · rfl

theorem has_decoration (c : Char) :
    (CharSet.except [.span '0' '9', .one '.', .one '+', .one '-']).has c = !isNumeric c := by
  have any : (CharSet.except [.span '0' '9', .one '.', .one '+', .one '-']).has c =
      ((c.isDigit || (c == '.' || (c == '+' || (c == '-' || false)))) != true) := rfl
  rw [any, isNumeric]
  cases c.isDigit <;> cases c == '.' <;> cases c == '+' <;> cases c == '-' <;> rfl

theorem accepts_strange (cs : List Char) :
    (Glob.having (.set (.except [.span '0' '9', .one '.', .one '+', .one '-']))).accepts cs =
      cs.any fun c => !isNumeric c := by
  rw [Glob.accepts_having]
  exact congrArg cs.any (funext has_decoration)

theorem accepts_digit (cs : List Char) :
    (Glob.having .digit).accepts cs = cs.any Char.isDigit := by
  refine (Glob.accepts_having _ cs).trans (congrArg cs.any (funext fun c => ?_))
  change ((c.isDigit || false) != false) = c.isDigit
  cases c.isDigit <;> rfl

theorem accepts_sign (cs : List Char) :
    (Glob.having (.oneOf "+-")).accepts cs = cs.any fun c => c == '+' || c == '-' := by
  refine (Glob.accepts_having _ cs).trans (congrArg cs.any (funext fun c => ?_))
  change ((c == '+' || (c == '-' || false)) != false) = _
  cases c == '+' <;> cases c == '-' <;> rfl

theorem accepts_points :
    Glob.accepts [.anyRun, .char '.', .anyRun, .char '.', .anyRun] cs = true ↔
      ∃ before after, cs = before ++ '.' :: after ∧ '.' ∈ after := by
  rw [Glob.accepts_after_char]
  refine exists_congr fun before => exists_congr fun after => and_congr_right fun _ => ?_
  rw [Glob.accepts_after_char]
  constructor
  · rintro ⟨first, second, rfl, -⟩
    exact List.mem_append_right _ List.mem_cons_self
  · intro member
    obtain ⟨first, second, split⟩ := List.append_of_mem member
    exact ⟨first, second, split, Glob.accepts_anyRun second⟩

/-- A text is plain if SQLite finds none of its faults in it. -/
theorem isPlain_iff_faultless :
    IsPlain cs ↔ (cs.any fun c => !isNumeric c) = false ∧ cs.any Char.isDigit = true ∧
      ((cs.drop 1).any fun c => c == '+' || c == '-') = false ∧
      Glob.accepts [.anyRun, .char '.', .anyRun, .char '.', .anyRun] cs = false := by
  rw [← Bool.not_eq_true (Glob.accepts _ cs), accepts_points]
  simp only [List.any_eq_false, List.any_eq_true, Bool.not_eq_true', Bool.not_eq_false,
    Bool.or_eq_true, beq_iff_eq, not_or, not_exists, not_and]
  constructor
  · intro plain
    exact ⟨plain.numeric, plain.digit, fun c member => (plain.sign c member).symm, plain.point⟩
  · rintro ⟨numeric, digit, sign, point⟩
    exact ⟨numeric, digit, fun c member => (sign c member).symm, point⟩

section

variable {row : Row} {e : Expr}

open Classical in
theorem regexMatch?_text {r : Regex} (stands : r.fits .whole = true) (cs : List Char) :
    (Value.text cs).regexMatch? (.text r.text.toList) = some (some (decide (r.Accepts cs))) := by
  obtain ⟨read, spelled, same⟩ := Regex.ofText?_text Chars.isSpace stands
  have accepts : (∃ captures, read.Matches Chars.isSpace cs captures) ↔ r.Accepts cs :=
    exists_congr fun _ => same.matches_iff
  rw [Value.regexMatch?, String.ofList_toList, spelled, ← decide_eq_decide.2 accepts]
  rfl

open Classical in
theorem eval_regexMatch {r : Regex} (stands : r.fits .whole = true)
    (value : e.eval row = some (.text cs)) :
    (regexMatch e r).eval row = some (.ofTruth row.dialect (some (decide (r.Accepts cs)))) := by
  rw [regexMatch, eval_binary .regexMatch value rfl, binary_regexMatch, regexMatch?_text stands]
  rfl

theorem eval_regexMatch_null (r : Regex) (value : e.eval row = some .null) :
    (regexMatch e r).eval row = some (.ofTruth row.dialect none) := by
  rw [regexMatch, eval_binary .regexMatch value rfl, binary_regexMatch]
  rfl

theorem eval_globMatch (glob : Glob) (spelled : Glob.ofText? glob.text = some glob)
    (value : e.eval row = some (.text cs)) :
    (globMatch e glob).eval row = some (.ofTruth row.dialect (some (glob.accepts cs))) := by
  have matched : (Value.text cs).globMatch? (.text glob.text.toList) =
      some (some (glob.accepts cs)) := by
    rw [Value.globMatch?, String.ofList_toList, spelled]
    rfl
  rw [globMatch, eval_binary .glob value rfl, binary_glob, matched]
  rfl

theorem eval_globMatch_null (glob : Glob) (value : e.eval row = some .null) :
    (globMatch e glob).eval row = some (.ofTruth row.dialect none) := by
  rw [globMatch, eval_binary .glob value rfl, binary_glob]
  rfl

end

section

variable {row : Row} {e : Expr}

open Classical in
theorem eval_looseNumber_postgres (postgres : row.dialect = .postgres)
    (value : (e.cast .text).eval row = some (.text cs)) :
    (looseNumber .postgres e).eval row = some (.ofNumber (looseText? .postgres cs)) := by
  have bare : (Expr.call "REGEXP_REPLACE"
      [e.cast .text, .text decoration.text, .text "", .text "g"]).eval row =
      some (.text (cs.filter isNumeric)) := by
    have spelled : Regex.ofText? (String.ofList decoration.text.toList) = some decoration := by rfl
    rw [eval_call (by decide) (evalEach_cons value rfl)]
    refine (Value.apply_regexpReplace spelled).trans ?_
    simp only [has_decoration, Bool.not_not]
  have read : ∀ {e : Expr} {cs : List Char} {decimal : Decimal}, e.eval row = some (.text cs) →
      Decimal.read? (Chars.strip Chars.isSpace cs) = some decimal →
      (e.cast .double).eval row = some (.real decimal.value) := by
    intro e cs decimal value read
    have cast : (e.cast .double).eval row = (Value.text cs).castDouble row.dialect :=
      eval_cast .double value
    rw [cast, postgres, Value.castDouble, read]
    rfl
  rw [looseNumber, eval_caseWhen, evalBranches_cons (eval_regexMatch (by rfl) value),
    evalBranches_cons (eval_regexMatch (by rfl) value),
    evalBranches_cons (eval_regexMatch (by rfl) bare), looseText?]
  -- A date comes before a number with blanks around it, and that before the digits alone.
  by_cases date : dateStart.Accepts cs
  · rw [if_pos date, decide_eq_true date, if_pos rfl]
    rfl
  rw [if_neg date, decide_eq_false date, if_neg (by decide)]
  by_cases numeric : numericText.Accepts cs
  · rw [if_pos numeric, decide_eq_true numeric, if_pos rfl]
    obtain ⟨captures, accepted⟩ := numeric
    obtain ⟨decimal, stripped⟩ := read?_of_numericText accepted
    rw [read value stripped, spelled?, stripped]
    rfl
  rw [if_neg numeric, decide_eq_false numeric, if_neg (by decide)]
  by_cases plain : plainNumber.Accepts (cs.filter isNumeric)
  · rw [if_pos plain, decide_eq_true plain, if_pos rfl]
    obtain ⟨captures, accepted⟩ := plain
    obtain ⟨number, -, text⟩ := exists_written_of_plainNumber accepted
    have stripped : Chars.strip Chars.isSpace (cs.filter isNumeric) = number.text := by
      rw [text]
      exact Chars.strip_eq_self fun _ => Chars.isSpace_of_mem_text
    rw [read bare (stripped.symm ▸ number.read?_text), spelled?, text, number.read?_text]
    rfl
  · rw [if_neg plain, decide_eq_false plain, if_neg (by decide)]
    rfl

end

section

variable {row : Row} {e : Expr}

abbrev without (e : Expr) (chars : List Char) : Expr :=
  (chars.map fun c => String.ofList [c]).foldl
    (fun s sign => .call "REPLACE" [s, .text sign, .text ""]) e

theorem eval_without (chars : List Char) (value : e.eval row = some (.text cs)) :
    (without e chars).eval row = some (.text (cs.filter fun c => !chars.contains c)) := by
  induction chars generalizing e cs with
  | nil =>
    have all : cs.filter (fun c => !List.contains [] c) = cs :=
      List.filter_eq_self.2 fun _ _ => rfl
    rw [all]
    exact value
  | cons c chars ih =>
    have first : (Expr.call "REPLACE" [e, .text (String.ofList [c]), .text ""]).eval row =
        some (.text (cs.filter (· != c))) := by
      have sign : (Expr.text (String.ofList [c])).eval row = some (.text [c]) := by
        rw [Expr.eval, String.toList_ofList]
      rw [eval_call (by decide) (evalEach_cons value (evalEach_cons sign rfl)),
        ← Chars.replaceAll_one]
      exact Value.apply_replace cs c
    refine (ih first).trans ?_
    rw [List.filter_filter]
    congr 2
    apply List.filter_congr
    intro x _
    rw [List.contains_cons, Bool.not_or, Bool.and_comm]
    rfl

theorem eval_without_null (chars : List Char) (value : e.eval row = some .null) :
    (without e chars).eval row = some .null := by
  induction chars generalizing e with
  | nil => exact value
  | cons c chars ih =>
    refine ih ?_
    rw [eval_call (by decide) (evalEach_cons value rfl)]
    rfl

theorem eval_isNumberType (value : e.eval row = some v) (stored : ∀ b, v ≠ .bool b) :
    (isNumberType (.call "typeof" [e])).eval row =
      some (.ofTruth row.dialect (some v.number?.isSome)) := by
  have type : (Expr.call "typeof" [e]).eval row = some (.text v.typeName.toList) := by
    rw [eval_call (by decide) (evalEach_cons value evalEach_nil)]
    rfl
  have among := Value.among?_texts v.typeName.toList ["integer".toList, "real".toList]
  have isNumber : (["integer".toList, "real".toList].any (v.typeName.toList == ·)) =
      v.number?.isSome := by
    cases v with
    | bool b => exact absurd rfl (stored b)
    | null | int _ | real _ | text _ | other _ => simp [Value.typeName, Value.number?]
  rw [isNumber] at among
  rw [isNumberType, Expr.isIn, Expr.eval, type]
  change (do
    let found ← (Value.text v.typeName.toList).among?
      (["integer".toList, "real".toList].map .text)
    some (Value.ofTruth row.dialect found)) = _
  rw [among]
  rfl

theorem unary_not (row : Row) (truth : Option Bool) :
    row.unary .not (.ofTruth row.dialect truth) =
      some (.ofTruth row.dialect (truth.map (!·))) := by
  rw [Row.unary, truth?_ofTruth]
  rfl

theorem eval_looseNumber_number (value : e.eval row = some v) (stored : ∀ b, v ≠ .bool b)
    (isNumber : v.number?.isSome = true) : (looseNumber .sqlite e).eval row = some v := by
  have type := eval_isNumberType value stored
  rw [isNumber] at type
  rw [looseNumber, eval_caseWhen, evalBranches_cons type, if_pos rfl, value]

theorem looseNumber_sqlite (e : Expr) :
    looseNumber .sqlite e =
      let t := Expr.call "TRIM" [e.cast .text]
      .caseWhen
        [⟨isNumberType (.call "typeof" [e]), e⟩,
         ⟨globMatch t dateShape, .null⟩,
         ⟨(without t decorationChars).eq (.text ""), .null⟩,
         ⟨globMatch (without t decorationChars)
            (.having (.set (.except [.span '0' '9', .one '.', .one '+', .one '-']))), .null⟩,
         ⟨.not (globMatch (without t decorationChars) (.having .digit)), .null⟩,
         ⟨globMatch (.call "substr" [without t decorationChars, 2]) (.having (.oneOf "+-")), .null⟩,
         ⟨globMatch (without t decorationChars)
            [.anyRun, .char '.', .anyRun, .char '.', .anyRun], .null⟩]
        (some ((without t decorationChars).cast .double)) := rfl

theorem eval_looseNumber_sqlite (sqlite : row.dialect = .sqlite) (value : e.eval row = some v)
    (stored : ∀ b, v ≠ .bool b) (other : v.number? = none)
    (text : (e.cast .text).eval row = some (.text cs)) :
    (looseNumber .sqlite e).eval row = some (.ofNumber (looseText? .sqlite cs)) := by
  have trim : (Expr.call "TRIM" [e.cast .text]).eval row =
      some (.text (Chars.strip (· == ' ') cs)) := by
    rw [eval_call (by decide) (evalEach_cons text evalEach_nil)]
    rfl
  have type := eval_isNumberType value stored
  have bare := eval_without decorationChars trim
  rw [other] at type
  rw [looseText?]
  generalize Chars.strip (· == ' ') cs = trimmed at trim bare ⊢
  generalize (trimmed.filter fun c => !decorationChars.contains c) = digits at bare ⊢
  have date := eval_globMatch dateShape (by rfl) trim
  have empty : ((without (.call "TRIM" [e.cast .text]) decorationChars).eq (.text "")).eval row =
      some (.ofTruth row.dialect (some (digits == []))) := by
    have nothing : (Expr.text "").eval row = some (.text []) := rfl
    exact (eval_binary .eq bare nothing).trans rfl
  have strange := eval_globMatch
    (.having (.set (.except [.span '0' '9', .one '.', .one '+', .one '-']))) (by rfl) bare
  have digit := eval_globMatch (.having .digit) (by rfl) bare
  have rest : (Expr.call "substr" [without (.call "TRIM" [e.cast .text]) decorationChars, 2]).eval
      row = some (.text (digits.drop 1)) := by
    rw [eval_call (by decide) (evalEach_cons bare rfl)]
    rfl
  have sign := eval_globMatch (.having (.oneOf "+-")) (by rfl) rest
  have points := eval_globMatch
    [.anyRun, .char '.', .anyRun, .char '.', .anyRun] (by rfl) bare
  have digitless : (Expr.not (globMatch (without (.call "TRIM" [e.cast .text]) decorationChars)
      (.having .digit))).eval row =
      some (.ofTruth row.dialect (some !digits.any Char.isDigit)) := by
    rw [accepts_digit] at digit
    exact (eval_unary .not digit).trans (unary_not row _)
  have whole : ((without (.call "TRIM" [e.cast .text]) decorationChars).cast .double).eval row =
      some (.real (Chars.leadingNumber digits)) := by
    refine (eval_cast .double bare).trans ?_
    rw [Row.cast, sqlite]
    rfl
  rw [accepts_strange] at strange
  rw [accepts_sign] at sign
  -- Every condition has a truth value by now, so that the branches can be taken in order.
  rw [looseNumber_sqlite, eval_caseWhen, evalBranches_cons type, evalBranches_cons date,
    evalBranches_cons empty, evalBranches_cons strange, evalBranches_cons digitless,
    evalBranches_cons sign, evalBranches_cons points, evalBranches, evalOptional, whole]
  have nothing : Expr.null.eval row = some .null := rfl
  rw [nothing, if_neg (by decide)]
  by_cases dated : dateShape.accepts trimmed = true
  · rw [if_pos (congrArg some dated), if_pos dated]
    rfl
  rw [if_neg (fun h => dated (Option.some.inj h)), if_neg dated]
  by_cases plain : IsPlain digits
  · obtain ⟨clean, hasDigit, unsigned, onePoint⟩ := isPlain_iff_faultless.1 plain
    have full : (digits == []) = false := by
      obtain ⟨c, member, -⟩ := plain.digit
      exact beq_false_of_ne (List.ne_nil_of_mem member)
    rw [full, clean, hasDigit, unsigned, onePoint, plainText?_of_isPlain plain]
    rfl
  · rw [plainText?_of_not_isPlain plain]
    rw [isPlain_iff_faultless] at plain
    simp only [Option.some.injEq]
    -- There is a branch for each fault, and an empty text has no digit.
    split_ifs with empty strange digitless signed pointed
    · rfl
    · rfl
    · rfl
    · rfl
    · rfl
    · simp only [Bool.not_eq_true, Bool.not_eq_false'] at strange digitless signed pointed
      exact absurd ⟨strange, digitless, signed, pointed⟩ plain

end

theorem eval_looseNumber_null {e : Expr} (value : e.eval row = some .null) :
    (looseNumber row.dialect e).eval row = some .null := by
  have text : (e.cast .text).eval row = some .null := eval_cast .text value
  cases row.dialect with
  | postgres =>
    have bare : (Expr.call "REGEXP_REPLACE"
        [e.cast .text, .text decoration.text, .text "", .text "g"]).eval row = some .null := by
      rw [eval_call (by decide) (evalEach_cons text rfl)]
      rfl
    rw [looseNumber, eval_caseWhen, evalBranches_cons (eval_regexMatch_null _ text),
      evalBranches_cons (eval_regexMatch_null _ text),
      evalBranches_cons (eval_regexMatch_null _ bare)]
    rfl
  | sqlite =>
    have type := eval_isNumberType value fun _ => Value.noConfusion
    have trim : (Expr.call "TRIM" [e.cast .text]).eval row = some .null := by
      rw [eval_call (by decide) (evalEach_cons text evalEach_nil)]
      rfl
    have bare := eval_without_null decorationChars trim
    have empty : ((without (.call "TRIM" [e.cast .text]) decorationChars).eq
        (.text "")).eval row = some (.ofTruth row.dialect none) := eval_binary .eq bare rfl
    have rest : (Expr.call "substr"
        [without (.call "TRIM" [e.cast .text]) decorationChars, 2]).eval row = some .null := by
      rw [eval_call (by decide) (evalEach_cons bare rfl)]
      rfl
    have digitless : (Expr.not (globMatch (without (.call "TRIM" [e.cast .text])
        decorationChars) (.having .digit))).eval row = some (.ofTruth row.dialect none) :=
      (eval_unary .not (eval_globMatch_null _ bare)).trans (unary_not row _)
    have whole : ((without (.call "TRIM" [e.cast .text]) decorationChars).cast .double).eval
        row = some .null := eval_cast .double bare
    rw [looseNumber_sqlite, eval_caseWhen, evalBranches_cons type,
      evalBranches_cons (eval_globMatch_null _ trim), evalBranches_cons empty,
      evalBranches_cons (eval_globMatch_null _ bare), evalBranches_cons digitless,
      evalBranches_cons (eval_globMatch_null _ rest),
      evalBranches_cons (eval_globMatch_null _ bare), evalBranches, evalOptional, whole]
    rfl

end SheetSql
