import SheetSql.Coerce.Comparison
import SheetSql.Proofs.Embedding.Bracket
import SheetSql.Proofs.Number.Plain
import SheetSql.Render

namespace SheetSql

/-! Constants that are written and read again. -/

open Text Sql

theorem trim_of_solid (solid : ∀ c ∈ cs, isBlank c = false) : trim cs = cs := by
  have kept : ∀ {list : List Char}, (∀ c ∈ list, isBlank c = false) →
      list.dropWhile isBlank = list := by
    intro list all
    cases list with
    | nil => rfl
    | cons c rest =>
      rw [List.dropWhile_cons, all c List.mem_cons_self]
      rfl
  rw [trim, trimStart, kept solid, trimEnd, kept, List.reverse_reverse]
  intro c member
  exact solid c (List.mem_reverse.1 member)

theorem bare_of_head (kept : trim (c :: cs) = c :: cs) (opens : c ≠ '(') :
    bare (c :: cs) = c :: cs := by
  have outer : inside? (c :: cs) = none := by
    unfold inside?
    split
    · next split =>
        cases split
        exact absurd rfl opens
    · rfl
  rw [bare, kept, List.length_cons, peel, outer]

theorem bare_brackets (closed : outside? isQuote none cs = some found)
    (level : depthAfter 0 found = some 0) : bare ('(' :: cs ++ [')']) = bare cs := by
  have closes : readGroup none 0 (cs ++ [')']) = some (cs, []) :=
    readGroup_append (by simp) closed level []
  have inner : inside? ('(' :: cs ++ [')']) = some (trim cs) := by
    rw [List.cons_append, inside?, closes]
  have whole : trim ('(' :: cs ++ [')']) = '(' :: cs ++ [')'] :=
    trim_of_ends (by decide) (by decide)
  rw [bare_eq_peel, bare_eq_peel, whole, List.length_append, List.length_singleton, peel, inner]
  apply peel_eq
  · have shorter := length_trim_le cs
    rw [List.length_cons]
    omega
  · exact Nat.le_refl _

theorem bare_group (plain : ∀ c ∈ cs, isQuote c = false ∧ c ≠ '(' ∧ c ≠ ')') :
    bare ('(' :: cs ++ [')']) = bare cs :=
  bare_brackets (outside?_of_plain fun c member => (plain c member).1)
    (depthAfter_of_plain (fun c member => (plain c member).2) 0)

theorem plain_of_isNumeric (numeric : isNumeric c = true) :
    isBlank c = false ∧ isQuote c = false ∧ c ≠ '(' ∧ c ≠ ')' ∧ c.toLower ≠ 'n' := by
  simp only [isNumeric, Char.isDigit, Bool.or_eq_true, Bool.and_eq_true, decide_eq_true_eq,
    beq_iff_eq, ge_iff_le, UInt32.le_iff_toNat_le] at numeric
  rcases numeric with ((digit | rfl) | rfl) | rfl
  · have bounds : 48 ≤ c.toNat ∧ c.toNat ≤ 57 := digit
    have letter : c.toLower.toNat = c.toNat := by
      rw [toNat_toLower, if_neg (by omega)]
    refine ⟨?_, ?_, ?_, ?_, ?_⟩
    · rw [← Bool.not_eq_true]
      simp only [isBlank, Bool.or_eq_true, Bool.and_eq_true, decide_eq_true_eq, beq_iff_eq]
      omega
    · rw [← Bool.not_eq_true]
      intro quote
      simp only [isQuote, Bool.or_eq_true, beq_iff_eq] at quote
      rcases quote with (rfl | rfl) | rfl <;> exact absurd bounds (by decide)
    · rintro rfl
      exact absurd bounds (by decide)
    · rintro rfl
      exact absurd bounds (by decide)
    · intro same
      rw [same] at letter
      have code : 'n'.toNat = 110 := rfl
      omega
  · decide
  · decide
  · decide

theorem trim_of_isNumeric (numeric : ∀ c ∈ cs, isNumeric c = true) : trim cs = cs :=
  trim_of_solid fun c member => (plain_of_isNumeric (numeric c member)).1

theorem bare_of_isNumeric (numeric : ∀ c ∈ cs, isNumeric c = true) : bare cs = cs := by
  cases cs with
  | nil => rfl
  | cons c rest =>
    exact bare_of_head (trim_of_isNumeric numeric)
      (plain_of_isNumeric (numeric c List.mem_cons_self)).2.2.1

theorem bare_printNumber {digits : String} (numeric : ∀ c ∈ digits.toList, isNumeric c = true) :
    bare (printNumber digits).toList = digits.toList := by
  unfold printNumber
  split
  · have text : ("(" ++ digits ++ ")").toList = '(' :: digits.toList ++ [')'] := by simp
    rw [text, bare_group, bare_of_isNumeric numeric]
    intro c member
    have plain := plain_of_isNumeric (numeric c member)
    exact ⟨plain.2.1, plain.2.2.1, plain.2.2.2.1⟩
  · exact bare_of_isNumeric numeric

theorem literalKind?_of_number {sql : String} {number : Written} (plain : number.power = none)
    (spelled : bare sql.toList = number.text) : literalKind? sql = some .number := by
  have word : isNullLiteral sql = false := by
    rw [isNullLiteral, spelled, sameLetters, ← Bool.not_eq_true, beq_iff_eq]
    intro same
    have letter : 'n' ∈ number.text.map Char.toLower := by
      rw [same]
      decide
    obtain ⟨c, member, lower⟩ := List.mem_map.1 letter
    exact (plain_of_isNumeric (Written.isNumeric_of_mem_text plain member)).2.2.2.2 lower
  have read : numberLiteral? sql = some number.decimal := by
    rw [numberLiteral?, spelled, number.read?_text]
  rw [literalKind?, word, read]
  rfl

theorem positional_split (c : Nat) (e : Int) :
    ∃ (whole : List Char) (fraction : Option (List Char)),
      Double.positional c e = whole ++ Written.fractionText fraction ∧
        Decimal.isDigits whole = true ∧ Decimal.isDigits (fraction.getD []) = true ∧
        whole ≠ [] := by
  have digits : Decimal.isDigits (Nat.toDigits 10 c) = true :=
    List.all_eq_true.2 fun _ member => Nat.isDigit_of_mem_toDigits (by decide) (by decide) member
  have zeros : ∀ n, Decimal.isDigits (List.replicate n '0') = true := by
    intro n
    exact List.all_eq_true.2 fun d member => by
      rw [List.eq_of_mem_replicate member]
      rfl
  have joined : ∀ {left right : List Char}, Decimal.isDigits left = true →
      Decimal.isDigits right = true → Decimal.isDigits (left ++ right) = true := by
    intro left right first second
    rw [Decimal.isDigits, List.all_append]
    exact Bool.and_eq_true_iff.2 ⟨first, second⟩
  unfold Double.positional
  dsimp only
  split
  · refine ⟨_, none, (List.append_nil _).symm, joined digits (zeros _), rfl, ?_⟩
    exact List.append_ne_nil_of_left_ne_nil Nat.toDigits_ne_nil _
  · generalize shape : List.replicate _ '0' ++ Nat.toDigits 10 c = padded
    have all : Decimal.isDigits padded = true := by
      rw [← shape]
      exact joined (zeros _) digits
    have long : (-e).toNat < padded.length := by
      rw [← shape, List.length_append, List.length_replicate]
      omega
    refine ⟨padded.take (padded.length - (-e).toNat), some _, rfl, ?_, ?_, ?_⟩
    · exact List.all_eq_true.2 fun d member =>
        List.all_eq_true.1 all d (List.mem_of_mem_take member)
    · exact List.all_eq_true.2 fun d member =>
        List.all_eq_true.1 all d (List.mem_of_mem_drop member)
    · intro empty
      have none := congrArg List.length empty
      rw [List.length_take, List.length_nil] at none
      omega

theorem exists_written_text {value : Double} (finite : value.isFinite = true) :
    ∃ number : Written, number.power = none ∧ number.text = value.text.toList := by
  cases value with
  | nan => cases finite
  | infinite negative => cases finite
  | finite negative significand exponent =>
    have magnitude : ∃ (whole : List Char) (fraction : Option (List Char)),
        (if significand = 0 then ['0'] else
            Double.positional (Double.interval significand exponent).shortest.1
              (Double.interval significand exponent).shortest.2) =
          whole ++ Written.fractionText fraction ∧
        Decimal.isDigits whole = true ∧ Decimal.isDigits (fraction.getD []) = true ∧
        whole ≠ [] := by
      split
      · exact ⟨['0'], none, rfl, rfl, rfl, by decide⟩
      · exact positional_split _ _
    obtain ⟨whole, fraction, text, isWhole, isFraction, filled⟩ := magnitude
    refine ⟨⟨if negative then some true else none, whole, fraction, none, isWhole, isFraction,
      .inl filled⟩, rfl, ?_⟩
    rw [Double.text, String.toList_ofList]
    dsimp only at text ⊢
    rw [text, Written.text, Written.mantissa, Written.powerText, List.append_nil]
    cases negative with
    | false => rfl
    | true => rfl

theorem bare_of_quotes (first : isQuote q = true) (last : isQuote q' = true) (cs : List Char) :
    bare (q :: cs ++ [q']) = q :: cs ++ [q'] := by
  have solid : ∀ c, isQuote c = true → isBlank c = false ∧ c ≠ '(' := by
    intro c quote
    simp only [isQuote, Bool.or_eq_true, beq_iff_eq] at quote
    rcases quote with (rfl | rfl) | rfl <;> decide
  exact bare_of_head (trim_of_ends (solid q first).1 (solid q' last).1) (solid q first).2

theorem bare_quoteText (content : String) :
    bare (quoteText content).toList = (quoteText content).toList := by
  rw [quoteText, toList_enclose]
  exact bare_of_quotes rfl rfl _

theorem textLiteral?_eq_some_iff (sql content : String) :
    textLiteral? sql = some content ↔ bare sql.toList = (quoteText content).toList := by
  rw [quoteText, toList_enclose, textLiteral?]
  constructor
  · intro read
    split at read
    · cases read
    · next c cs start =>
        split at read
        · next quote =>
            split at read
            · next inner found =>
                cases read
                rw [start, quote, (readQuoted_eq_some_iff.1 found).1, String.toList_ofList]
            · cases read
        · cases read
  · intro shape
    have read : readQuoted singleQuote (double singleQuote content.toList ++ [singleQuote]) =
        some (content.toList, []) := readQuoted_eq_some_iff.2 ⟨rfl, by simp⟩
    rw [shape]
    dsimp only
    rw [if_pos rfl, read]
    exact congrArg some String.ofList_toList

theorem textLiteral?_quoteText (content : String) :
    textLiteral? (quoteText content) = some content :=
  (textLiteral?_eq_some_iff _ _).2 (bare_quoteText content)

theorem literalKind?_quoteText (content : String) :
    literalKind? (quoteText content) = some (if content.isEmpty then .blank else .text) := by
  have text : (quoteText content).toList =
      singleQuote :: (double singleQuote content.toList ++ [singleQuote]) := toList_enclose _ _
  have word : isNullLiteral (quoteText content) = false := by
    rw [isNullLiteral, bare_quoteText, text]
    rfl
  have number : numberLiteral? (quoteText content) = none := by
    rw [numberLiteral?, bare_quoteText, text]
    rfl
  rw [literalKind?, word, number, textLiteral?_quoteText]
  rfl

def Leaf.kind? : Leaf → Option Kind
  | .text content => some (if content.isEmpty then .blank else .text)
  | .number value => some (if value.isFinite then .number else .blank)
  | .boolean _ => some .boolean
  | .null => some .blank
  | .field _ => none

def Dialect.readKind (dialect : Dialect) (kind : Kind) : Kind :=
  if dialect = .sqlite ∧ kind = .boolean then .number else kind

theorem readKind_of_ne (other : kind ≠ .boolean) (dialect : Dialect) :
    dialect.readKind kind = kind := by
  rw [Dialect.readKind, if_neg]
  intro both
  exact other both.2

theorem literalKind?_renderLeaf (target : Target) (job : Job) {leaf : Leaf}
    (constant : leaf.kind? = some kind) :
    ∃ sql, target.renderLeaf job leaf = .ok sql ∧
      literalKind? sql = some (target.dialect.readKind kind) := by
  cases leaf with
  | text content =>
    cases constant
    refine ⟨quoteText content, rfl, ?_⟩
    rw [literalKind?_quoteText, readKind_of_ne]
    split <;> decide
  | number value =>
    cases constant
    cases finite : value.isFinite with
    | false =>
      refine ⟨"NULL", ?_, ?_⟩
      · rw [Target.renderLeaf, Target.leaf, finite]
        rfl
      · rw [readKind_of_ne (by decide)]
        rfl
    | true =>
      obtain ⟨number, plain, text⟩ := exists_written_text finite
      have numeric : ∀ c ∈ value.text.toList, isNumeric c = true := by
        intro c member
        rw [← text] at member
        exact Written.isNumeric_of_mem_text plain member
      refine ⟨printNumber value.text, ?_, ?_⟩
      · rw [Target.renderLeaf, Target.leaf, finite]
        rfl
      · rw [literalKind?_of_number plain ((bare_printNumber numeric).trans text.symm),
          readKind_of_ne (by decide)]
        rfl
  | boolean value =>
    cases constant
    refine ⟨printBool target.dialect value, rfl, ?_⟩
    cases target.dialect <;> cases value <;> rfl
  | null =>
    cases constant
    refine ⟨"NULL", rfl, ?_⟩
    rw [readKind_of_ne (by decide)]
    rfl
  | field id => cases constant

theorem classify_of_literalKind? (job : Job) (found : literalKind? sql = some kind)
    (hint : Option Hint) :
    (Operand.classify job sql hint).isLiteral = true ∧
      (Operand.classify job sql hint).kind = kind := by
  rw [Operand.classify, found]
  exact ⟨rfl, rfl⟩

theorem readKind_eq_iff (dialect : Dialect) (kind : Kind) :
    dialect.readKind kind = kind ↔ ¬(dialect = .sqlite ∧ kind = .boolean) := by
  rw [Dialect.readKind]
  split
  · next both =>
      rw [both.2]
      simp [both.1]
  · next other => simp [other]

namespace Site

def compareTruths (site : Site) (op : BinOp) (left right : Operand) : Except Error Expr := do
  return .binary (← site.toBool left) op (← site.toBool right)

def equalOp (negated : Bool) : BinOp := if negated then .ne else .eq

theorem equal_of_booleans (site : Site) (negated : Bool) {left right : Operand}
    (first : left.kind = .boolean) (second : right.kind = .boolean) :
    site.equal negated left right = site.compareTruths (equalOp negated) left right := by
  simp only [Site.equal, Operand.isTextLike, Operand.isBlank, Operand.isDatetimeLike, first, second]
  rfl

theorem equal_of_boolean_number (site : Site) (negated : Bool) {left right : Operand}
    (first : left.kind = .boolean) (second : right.kind = .number) :
    site.equal negated left right = site.compareTexts (equalOp negated) left right := by
  simp only [Site.equal, Operand.isTextLike, Operand.isBlank, Operand.isDatetimeLike,
    Operand.isNumberLike, first, second]
  rfl

theorem compareTexts_ne_compareTruths (site : Site) (op : BinOp) {left right : Operand}
    (lite : site.target.dialect = .sqlite) (first : left.kind = .boolean)
    (second : right.kind = .number) :
    site.compareTexts op left right ≠ site.compareTruths op left right := by
  have leftText : ∃ e : Expr, site.toTextOrEmpty left = .ok (e.orElse (.text "")) := by
    rw [Site.toTextOrEmpty, Site.toText, Operand.isBlank, first]
    exact ⟨_, rfl⟩
  have rightText : ∃ e, site.toTextOrEmpty right = .ok e := by
    rw [Site.toTextOrEmpty, Site.toText, Operand.isBlank, second]
    cases right.isLiteral with
    | true => exact ⟨_, rfl⟩
    | false => exact ⟨_, rfl⟩
  have leftTruth : site.toBool left = .ok ((left.expr.orElse 0).ne 0) := by
    rw [Site.toBool, first, lite]
    rfl
  have rightTruth : ∃ e, site.toBool right = .ok e := by
    rw [Site.toBool, Site.toNumberOrZero, Site.toNumber, second]
    exact ⟨_, rfl⟩
  obtain ⟨text, leftText⟩ := leftText
  obtain ⟨other, rightText⟩ := rightText
  obtain ⟨truth, rightTruth⟩ := rightTruth
  rw [Site.compareTexts, Site.compareTruths, leftText, rightText, leftTruth, rightTruth]
  intro same
  cases same

end Site

/--
A constant is read back as a constant of its own kind unless it is a boolean on SQLite, which is
read as a number. So a boolean is compared with a boolean constant by whether both are true on
Postgres, and not so on SQLite.
-/
theorem literal_keeps_kind_iff (target : Target) (job : Job) :
    (∀ (leaf : Leaf) (kind : Kind), leaf.kind? = some kind →
      ∃ sql, target.renderLeaf job leaf = .ok sql ∧
        (Operand.classify job sql none).isLiteral = true ∧
        ((Operand.classify job sql none).kind = kind ↔
          ¬(target.dialect = .sqlite ∧ kind = .boolean))) ∧
    ∀ (operation : Operation) (negated value : Bool) (operand : Operand),
      operand.kind = .boolean →
      ∃ sql, target.renderLeaf job (.boolean value) = .ok sql ∧
        (Site.equal ⟨job, target, operation⟩ negated operand (.classify job sql none) =
            Site.compareTruths ⟨job, target, operation⟩ (Site.equalOp negated) operand
              (.classify job sql none) ↔
          target.dialect = .postgres) := by
  constructor
  · intro leaf kind constant
    obtain ⟨sql, rendered, found⟩ := literalKind?_renderLeaf target job constant
    obtain ⟨isLiteral, read⟩ := classify_of_literalKind? job found none
    refine ⟨sql, rendered, isLiteral, ?_⟩
    rw [read]
    exact readKind_eq_iff target.dialect kind
  · intro operation negated value operand boolean
    obtain ⟨sql, rendered, found⟩ :=
      literalKind?_renderLeaf target job (show (Leaf.boolean value).kind? = some .boolean from rfl)
    obtain ⟨-, read⟩ := classify_of_literalKind? job found none
    refine ⟨sql, rendered, ?_⟩
    cases dialect : target.dialect with
    | postgres =>
      rw [dialect] at read
      exact iff_of_true (Site.equal_of_booleans _ negated boolean read) rfl
    | sqlite =>
      rw [dialect] at read
      refine iff_of_false ?_ (by decide)
      rw [Site.equal_of_boolean_number _ negated boolean read]
      exact Site.compareTexts_ne_compareTruths _ _ dialect boolean read

def doneJob : Job := .ofCatalog (.ofFields [.ofStorage "fld1" "done" .boolean]) ⟨0, 0⟩

def doneOperand : Operand := .classify doneJob "\"done\"" none

theorem literal_keeps_kind_iff_done :
    (Leaf.text "it's").kind? = some .text ∧ doneOperand.kind = .boolean ∧
      (∃ sql, Target.renderLeaf ⟨.sqlite, .select⟩ doneJob (.text "it's") = .ok sql ∧
        (Operand.classify doneJob sql none).kind = .text) ∧
      ∃ sql, Target.renderLeaf ⟨.postgres, .select⟩ doneJob (.boolean true) = .ok sql ∧
        Site.equal ⟨doneJob, ⟨.postgres, .select⟩, .equal⟩ false doneOperand
            (.classify doneJob sql none) =
          Site.compareTruths ⟨doneJob, ⟨.postgres, .select⟩, .equal⟩ .eq doneOperand
            (.classify doneJob sql none) := by
  have boolean : doneOperand.kind = .boolean := by rfl
  refine ⟨rfl, boolean, ?_, ?_⟩
  · obtain ⟨sql, rendered, -, keeps⟩ :=
      (literal_keeps_kind_iff ⟨.sqlite, .select⟩ doneJob).1 (.text "it's") .text rfl
    exact ⟨sql, rendered, keeps.2 (by decide)⟩
  · obtain ⟨sql, rendered, branch⟩ :=
      (literal_keeps_kind_iff ⟨.postgres, .select⟩ doneJob).2 .equal false true doneOperand boolean
    exact ⟨sql, rendered, branch.2 rfl⟩

/-- The column is compared with the constant for true as the texts `true` and `1`. -/
theorem sqlite_true_read_as_number :
    (Leaf.boolean true).kind? = some .boolean ∧
      Target.renderLeaf ⟨.sqlite, .select⟩ doneJob (.boolean true) = .ok "1" ∧
      (Operand.classify doneJob "1" none).kind = .number ∧
      Target.render ⟨.sqlite, .select⟩ doneJob "equal" ["\"done\"", "1"] [] =
        .ok ("(COALESCE(CASE WHEN \"done\" THEN 'true' WHEN (NOT \"done\") THEN 'false' END, " ++
          "'') = COALESCE('1', ''))") := by
  refine ⟨rfl, rfl, rfl, ?_⟩
  rfl

end SheetSql
