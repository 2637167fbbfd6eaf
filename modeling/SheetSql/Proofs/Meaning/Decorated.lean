import Mathlib.Data.List.Induction
import Mathlib.Tactic.FieldSimp
import Mathlib.Tactic.NormNum
import Mathlib.Tactic.Ring
import SheetSql.Proofs.Meaning.Loose

namespace SheetSql

/-! Decorated decimals. -/

open Coerce Regex Matcher

def isDecorated (c : Char) : Bool := isNumeric c || decorationChars.contains c

def undecorated (cs : List Char) : List Char := cs.filter fun c => !decorationChars.contains c

def Written.amount (number : Written) : ℚ :=
  let digits := number.fraction.getD []
  (if number.sign = some true then -1 else 1) *
    (Decimal.natOf number.whole + Decimal.natOf digits / 10 ^ digits.length)

/-- Whether a text is a decimal of this value, or none at all. -/
def SpellsDecimal (cs : List Char) : Option ℚ → Prop
  | some q => ∃ number : Written, number.power = none ∧ number.text = cs ∧ number.amount = q
  | none => ∀ number : Written, number.power = none → number.text ≠ cs

/-- A text that starts with a day in the ISO form, perhaps after blanks. -/
def StartsWithDay (cs : List Char) : Prop :=
  ∃ blanks year month day rest : List Char,
    cs = blanks ++ (year ++ '-' :: (month ++ '-' :: (day ++ rest))) ∧ (∀ c ∈ blanks, c = ' ') ∧
      (year ++ month ++ day).all Char.isDigit = true ∧ year.length = 4 ∧
      (month.length = 1 ∨ month.length = 2) ∧ (day.length = 1 ∨ day.length = 2)

theorem natOf_append (cs ds : List Char) :
    Decimal.natOf (cs ++ ds) = Decimal.natOf cs * 10 ^ ds.length + Decimal.natOf ds := by
  have concat : ∀ (cs : List Char) (c : Char),
      Decimal.natOf (cs ++ [c]) = 10 * Decimal.natOf cs + (c.toNat - 48) := by
    intro cs c
    simp [Decimal.natOf]
  induction ds using List.reverseRecOn with
  | nil => simp [Decimal.natOf]
  | append_singleton ds c ih =>
    rw [← List.append_assoc, concat, concat, ih, List.length_append, List.length_singleton,
      pow_succ]
    ring

theorem value_decimal {number : Written} (plain : number.power = none) :
    number.decimal.value = number.amount := by
  have sign : (number.sign == some true) = decide (number.sign = some true) := by
    rw [beq_eq_decide]
  rw [Written.amount, Written.decimal, Decimal.value, plain, natOf_append, sign]
  dsimp only
  rw [Written.exponent, zero_sub, zpow_neg, zpow_natCast]
  push_cast
  simp only [decide_eq_true_eq]
  field_simp

theorem spellsDecimal_plainText? (cs : List Char) : SpellsDecimal cs (plainText? cs) := by
  by_cases plain : IsPlain cs
  · obtain ⟨number, isPlain, rfl⟩ := plain.exists_written
    have value : plainText? number.text = some number.amount := by
      rw [plainText?, if_pos (List.all_eq_true.2 plain.numeric), spelled?, number.read?_text,
        Option.map_some, value_decimal isPlain]
    rw [value]
    exact ⟨number, isPlain, rfl, rfl⟩
  · rw [plainText?_of_not_isPlain plain]
    rintro number isPlain rfl
    exact plain (Written.isPlain_text isPlain)

theorem SpellsDecimal.unique (first : SpellsDecimal cs a) (second : SpellsDecimal cs b) :
    a = b := by
  cases a with
  | none =>
    cases b with
    | none => rfl
    | some q =>
      obtain ⟨number, plain, text, -⟩ := second
      exact absurd text (first number plain)
  | some p =>
    obtain ⟨number, plain, text, rfl⟩ := first
    cases b with
    | none => exact absurd text (second number plain)
    | some q =>
      obtain ⟨other, plain', text', rfl⟩ := second
      have same := number.read?_text
      rw [text, ← text', other.read?_text] at same
      rw [← value_decimal plain, ← value_decimal plain', Option.some.inj same]

theorem isNumeric_apart (numeric : isNumeric c = true) : decorationChars.contains c = false := by
  by_contra decoration
  rw [Bool.not_eq_false, List.contains_iff_mem] at decoration
  simp only [decorationChars, List.mem_cons, List.not_mem_nil, or_false] at decoration
  rcases decoration with rfl | rfl | rfl | rfl | rfl | rfl | rfl | rfl <;> cases numeric

theorem contains_of_isSpace (decorated : isDecorated c = true) (space : Chars.isSpace c = true) :
    decorationChars.contains c = true := by
  simp only [Chars.isSpace, Bool.or_eq_true, beq_iff_eq] at space
  rcases space with ((((rfl | rfl) | rfl) | rfl) | rfl) | rfl
  · rfl
  all_goals exact absurd decorated (by decide)

section

variable {cs : List Char}

theorem undecorated_eq_filter (decorated : ∀ c ∈ cs, isDecorated c = true) :
    undecorated cs = cs.filter isNumeric := by
  apply List.filter_congr
  intro c member
  cases numeric : isNumeric c with
  | true => rw [isNumeric_apart numeric]; rfl
  | false =>
    have either := decorated c member
    rw [isDecorated, numeric, Bool.false_or] at either
    rw [either]
    rfl

theorem filter_dropWhile (apart : ∀ c ∈ cs, drops c = true → keeps c = false) :
    (cs.dropWhile drops).filter keeps = cs.filter keeps := by
  induction cs with
  | nil => rfl
  | cons c cs ih =>
    have later := ih fun d member => apart d (List.mem_cons_of_mem c member)
    cases drop : drops c with
    | true =>
      rw [List.dropWhile_cons_of_pos drop, later, List.filter_cons_of_neg]
      rw [apart c List.mem_cons_self drop]
      decide
    | false => rw [List.dropWhile_cons_of_neg (by rw [drop]; decide)]

theorem filter_strip (apart : ∀ c ∈ cs, drops c = true → keeps c = false) :
    (Chars.strip drops cs).filter keeps = cs.filter keeps := by
  have rest : ∀ c ∈ (cs.dropWhile drops).reverse, drops c = true → keeps c = false :=
    fun c member =>
      apart c ((List.dropWhile_sublist _).subset (List.mem_reverse.1 member))
  rw [Chars.strip, List.filter_reverse, filter_dropWhile rest, List.filter_reverse,
    List.reverse_reverse, filter_dropWhile apart]

theorem mem_of_mem_strip (member : c ∈ Chars.strip drops cs) : c ∈ cs := by
  rw [Chars.strip, List.mem_reverse] at member
  have inner := (List.dropWhile_sublist _).subset member
  exact (List.dropWhile_sublist _).subset (List.mem_reverse.1 inner)

theorem not_isPlain_of_minus {d : Char} (digit : d.isDigit = true)
    (split : cs = before ++ d :: '-' :: after) : ¬IsPlain (undecorated cs) := by
  have kept : decorationChars.contains d = false := by
    apply isNumeric_apart
    rw [isNumeric, digit]
    rfl
  have parts : undecorated cs = undecorated before ++ d :: '-' :: undecorated after := by
    rw [split, undecorated, List.filter_append, List.filter_cons_of_pos (by rw [kept]; rfl),
      List.filter_cons_of_pos (by rfl)]
    rfl
  intro plain
  refine (plain.sign '-' ?_).1 rfl
  rw [parts]
  cases undecorated before with
  | nil => exact List.mem_cons_self
  | cons c rest =>
    exact List.mem_append_right rest (List.mem_cons_of_mem d List.mem_cons_self)

def HasInnerMinus (cs : List Char) : Prop :=
  ∃ before d after, cs = before ++ d :: '-' :: after ∧ d.isDigit = true

theorem hasInnerMinus_of_digits (before after : List Char) (filled : digits ≠ [])
    (isDigits : Decimal.isDigits digits = true) (split : cs = before ++ (digits ++ '-' :: after)) :
    HasInnerMinus cs := by
  refine ⟨before ++ digits.dropLast, digits.getLast filled, after, ?_,
    Written.isDigit_of_isDigits isDigits (List.getLast_mem filled)⟩
  conv_lhs => rw [split, ← List.dropLast_append_getLast filled]
  simp only [List.append_assoc, List.singleton_append]

theorem StartsWithDay.hasInnerMinus (day : StartsWithDay cs) : HasInnerMinus cs := by
  obtain ⟨blanks, year, month, day, rest, split, -, digits, length, -⟩ := day
  have isDigits : Decimal.isDigits year = true := by
    rw [List.all_append, List.all_append, Bool.and_eq_true, Bool.and_eq_true] at digits
    exact digits.1.1
  exact hasInnerMinus_of_digits blanks _ (ne_nil_of_length (by omega)) isDigits split

theorem hasInnerMinus_of_dateStart (date : dateStart.Accepts cs) : HasInnerMinus cs := by
  obtain ⟨_, before, _, after, rfl, _, day, _, _, rfl, -,
    ⟨_, second, _, _, rfl, -,
      ⟨_, month, _, _, rfl, -,
        ⟨_, _, _, _, rfl, -, ⟨blanks, year, _, _, rfl, -, -, readYear⟩, ⟨c, minus, rfl, -⟩⟩, -⟩, -⟩,
    -⟩ := date
  obtain ⟨isDigits, filled, -⟩ := isDigits_of_reads readYear
  rw [eq_of_beq minus]
  refine hasInnerMinus_of_digits (before ++ blanks) (month ++ (second ++ (day ++ after)))
    (ne_nil_of_length (Nat.le_trans (by decide) filled)) isDigits ?_
  simp only [List.append_assoc, List.cons_append, List.nil_append]

theorem exists_of_accepts_set {members : CharSet} {rest : Glob}
    (accepted : Glob.accepts (.set members :: rest) cs = true) :
    ∃ c tail, cs = c :: tail ∧ members.has c = true ∧ Glob.accepts rest tail = true := by
  cases cs with
  | nil => cases accepted
  | cons c tail => exact ⟨c, tail, rfl, Bool.and_eq_true_iff.1 accepted⟩

theorem hasInnerMinus_of_dateShape (date : dateShape.accepts cs = true) : HasInnerMinus cs := by
  obtain ⟨a, _, rfl, -, date⟩ := exists_of_accepts_set date
  obtain ⟨b, _, rfl, -, date⟩ := exists_of_accepts_set date
  obtain ⟨c, _, rfl, -, date⟩ := exists_of_accepts_set date
  obtain ⟨d, tail, rfl, digit, date⟩ := exists_of_accepts_set date
  have isDigit : d.isDigit = true := by
    have either : ((d.isDigit || false) != false) = true := digit
    simpa using either
  cases tail with
  | nil => cases date
  | cons minus rest =>
    obtain rfl : minus = '-' := eq_of_beq (Bool.and_eq_true_iff.1 date).1
    exact ⟨[a, b, c], d, rest, rfl, isDigit⟩

theorem reads_digits {blank : Char → Bool} {index least most : Nat}
    {before digits after : List Char} (isDigits : Decimal.isDigits digits = true)
    (enough : least ≤ digits.length) (few : digits.length ≤ most) :
    (Regex.digit.between least most).reads blank index before digits after [] :=
  times_one.2 ⟨enough, fun _ bound => Option.some.inj bound ▸ few, List.all_eq_true.1 isDigits, rfl⟩

theorem reads_sign {blank : Char → Bool} {index : Nat} {before after : List Char}
    (sign : Option Bool) :
    (oneOf "+-").opt.reads blank index before (Written.signText sign) after [] := by
  cases sign with
  | none => exact times_opt.2 (.inl ⟨rfl, rfl⟩)
  | some negative =>
    refine times_opt.2 (.inr ?_)
    cases negative with
    | false => exact ⟨'+', rfl, rfl, rfl⟩
    | true => exact ⟨'-', rfl, rfl, rfl⟩

theorem reads_fraction {blank : Char → Bool} {index : Nat} {before after digits : List Char}
    (isDigits : Decimal.isDigits digits = true) {least : Nat} (enough : least ≤ digits.length)
    (few : digits.length ≤ 200) :
    (Regex.char '.' ++ Regex.digit.between least 200).reads blank index before ('.' :: digits) after
      [] :=
  ⟨['.'], digits, [], [], rfl, rfl, ⟨'.', rfl, rfl, rfl⟩, reads_digits isDigits enough few⟩

theorem reads_plainDecimal {blank : Char → Bool} {index : Nat} {before after : List Char}
    {number : Written} (plain : number.power = none) (whole : number.whole.length ≤ 200)
    (fraction : (number.fraction.getD []).length ≤ 200) :
    ∃ captures, plainDecimal.reads blank index before number.text after captures := by
  obtain ⟨sign, digits, point, power, isWhole, isFraction, filled⟩ := number
  have text := Written.text_of_plain plain
  dsimp only at text plain whole fraction isFraction filled
  rw [text, Written.mantissa]
  dsimp only
  by_cases empty : digits = []
  · -- Without a whole part there is a point with digits behind it.
    have filled := filled.resolve_left (not_not.2 empty)
    cases point with
    | none => exact absurd rfl filled
    | some decimals =>
      refine ⟨_, _, _, [], _, rfl, rfl, reads_sign sign, [], rfl, .inr ?_⟩
      rw [empty]
      exact reads_fraction isFraction (List.length_pos_iff.2 filled) fraction
  · have enough : 1 ≤ digits.length := List.length_pos_iff.2 empty
    cases point with
    | none =>
      exact ⟨_, _, _, [], _, rfl, rfl, reads_sign sign, _, rfl, .inl
        ⟨digits, [], [], [], rfl, rfl, reads_digits isWhole enough whole,
          times_opt.2 (.inl ⟨rfl, rfl⟩)⟩⟩
    | some decimals =>
      exact ⟨_, _, _, [], _, rfl, rfl, reads_sign sign, _, rfl, .inl
        ⟨digits, '.' :: decimals, [], _, rfl, rfl, reads_digits isWhole enough whole,
          times_opt.2 (.inr ⟨[], rfl, reads_fraction isFraction (Nat.zero_le _) fraction⟩)⟩⟩

theorem accepts_plainNumber {number : Written} (plain : number.power = none)
    (few : number.text.countP Char.isDigit ≤ 200) : plainNumber.Accepts number.text := by
  have all : ∀ {digits : List Char}, Decimal.isDigits digits = true →
      digits.countP Char.isDigit = digits.length := fun isDigits =>
    List.countP_eq_length.2 (List.all_eq_true.1 isDigits)
  have fraction : (number.fraction.getD []).length ≤
      (Written.fractionText number.fraction).countP Char.isDigit := by
    have isFraction := number.isFraction
    revert isFraction
    cases number.fraction with
    | none => exact fun _ => Nat.zero_le _
    | some digits =>
      intro isFraction
      rw [Option.getD_some] at isFraction ⊢
      rw [Written.fractionText, List.countP_cons, all isFraction]
      exact Nat.le_add_right _ _
  rw [Written.text_of_plain plain, Written.mantissa, List.countP_append, List.countP_append,
    all number.isWhole] at few
  obtain ⟨captures, read⟩ : ∃ captures,
      plainDecimal.reads Chars.isSpace 1 [] number.text [] captures :=
    reads_plainDecimal plain (by omega) (by omega)
  refine ⟨captures, [], number.text, [], (List.append_nil _).symm, number.text, [], captures, [],
    (List.append_nil _).symm, (List.append_nil _).symm, ?_, rfl, rfl, rfl⟩
  exact ⟨[], number.text, [], captures, rfl, rfl, ⟨rfl, rfl, rfl⟩, read⟩

theorem looseText?_sqlite (cs : List Char) :
    looseText? .sqlite cs = plainText? (undecorated cs) := by
  have blanks : ∀ c ∈ cs, (c == ' ') = true → (!decorationChars.contains c) = false := by
    intro c _ blank
    rw [eq_of_beq blank]
    rfl
  have stripped : undecorated (Chars.strip (· == ' ') cs) = undecorated cs := filter_strip blanks
  rw [looseText?]
  split
  · next date =>
      obtain ⟨before, d, after, split, digit⟩ := hasInnerMinus_of_dateShape date
      rw [← stripped, plainText?_of_not_isPlain (not_isPlain_of_minus digit split)]
  · exact congrArg plainText? stripped

theorem undecorated_eq_text (decorated : ∀ c ∈ cs, isDecorated c = true) {number : Written}
    (text : number.text = Chars.strip Chars.isSpace cs) : undecorated cs = number.text := by
  have known : ∀ c ∈ number.text, isDecorated c = true := by
    intro c member
    rw [text] at member
    exact decorated c (mem_of_mem_strip member)
  have plain : number.power = none := by
    cases isPower : number.power with
    | none => rfl
    | some power =>
      have letter := known power.letter (by
        rw [Written.text, isPower]
        exact List.mem_append_right _ (List.mem_append_right _ List.mem_cons_self))
      rcases power.isLetter with same | same <;>
        · rw [same] at letter
          exact absurd letter (by decide)
  have blanks : ∀ c ∈ cs, Chars.isSpace c = true → (!decorationChars.contains c) = false := by
    intro c member space
    rw [contains_of_isSpace (decorated c member) space]
    rfl
  rw [undecorated, ← filter_strip blanks, ← text]
  refine List.filter_eq_self.2 fun c member => ?_
  rw [isNumeric_apart (Written.isNumeric_of_mem_text plain member)]
  rfl

theorem looseText?_postgres (decorated : ∀ c ∈ cs, isDecorated c = true)
    (few : cs.countP Char.isDigit ≤ 200) :
    looseText? .postgres cs = plainText? (undecorated cs) := by
  have fewer : (undecorated cs).countP Char.isDigit ≤ 200 :=
    List.filter_sublist.countP_le.trans few
  have whole : spelled? (undecorated cs) = plainText? (undecorated cs) := by
    rw [plainText?, if_pos]
    rw [undecorated_eq_filter decorated]
    exact List.all_eq_true.2 fun _ => List.of_mem_filter
  rw [looseText?, ← undecorated_eq_filter decorated]
  split
  · next date =>
      obtain ⟨before, d, after, split, digit⟩ := hasInnerMinus_of_dateStart date
      rw [plainText?_of_not_isPlain (not_isPlain_of_minus digit split)]
  split
  · next numeric =>
      obtain ⟨captures, accepted⟩ := numeric
      obtain ⟨decimal, read⟩ := read?_of_numericText accepted
      obtain ⟨number, text⟩ := Written.exists_of_read? read
      rw [← whole, ← text, undecorated_eq_text decorated text]
  split
  · exact whole
  · next other =>
      rw [plainText?_of_not_isPlain]
      intro plain
      obtain ⟨number, isPlain, text⟩ := plain.exists_written
      rw [← text] at other fewer
      exact other (accepts_plainNumber isPlain fewer)

end

/--
Both engines read the same number from a decorated decimal of at most 200 digits. It is the value
of the text without its decoration if that is a sign or none and digits with at most one point
among them, and null otherwise, as it is for every text that starts with a day.
-/
theorem decorated_decimals_agree {cs : List Char} (decorated : ∀ c ∈ cs, isDecorated c = true)
    (few : cs.countP Char.isDigit ≤ 200) {postgres sqlite : Row}
    (onPostgres : postgres.dialect = .postgres) (onSqlite : sqlite.dialect = .sqlite) {e : Expr}
    (value : e.eval postgres = some (.text cs)) (value' : e.eval sqlite = some (.text cs)) :
    ∃ number : Option ℚ, SpellsDecimal (undecorated cs) number ∧
      (looseNumber .postgres e).eval postgres = some (.ofNumber number) ∧
      (looseNumber .sqlite e).eval sqlite = some (.ofNumber number) ∧
      (StartsWithDay cs → number = none) := by
  refine ⟨plainText? (undecorated cs), spellsDecimal_plainText? _, ?_, ?_, ?_⟩
  · have text : (e.cast .text).eval postgres = some (.text cs) := eval_cast .text value
    rw [eval_looseNumber_postgres onPostgres text, looseText?_postgres decorated few]
  · have text : (e.cast .text).eval sqlite = some (.text cs) := eval_cast .text value'
    rw [eval_looseNumber_sqlite onSqlite value' (fun _ => Value.noConfusion) rfl text,
      looseText?_sqlite]
  · intro day
    obtain ⟨before, d, after, split, digit⟩ := day.hasInnerMinus
    exact plainText?_of_not_isPlain (not_isPlain_of_minus digit split)

def priceText : List Char := "- $1,234_5.50 %".toList

def constantRow (dialect : Dialect) : Row :=
  ⟨dialect, fun _ => .null, fun _ => false, fun _ => []⟩

theorem decorated_decimals_agree_price :
    (∀ c ∈ priceText, isDecorated c = true) ∧ priceText.countP Char.isDigit ≤ 200 ∧
      (looseNumber .postgres (.text "- $1,234_5.50 %")).eval (constantRow .postgres) =
        some (.real (-24691 / 2)) ∧
      (looseNumber .sqlite (.text "- $1,234_5.50 %")).eval (constantRow .sqlite) =
        some (.real (-24691 / 2)) := by
  have decorated : ∀ c ∈ priceText, isDecorated c = true := List.all_eq_true.1 (by rfl)
  have few : priceText.countP Char.isDigit ≤ 200 := by decide
  have onPostgres : (constantRow .postgres).dialect = .postgres := rfl
  have onSqlite : (constantRow .sqlite).dialect = .sqlite := rfl
  obtain ⟨number, spells, postgres, sqlite, -⟩ :=
    decorated_decimals_agree decorated few onPostgres onSqlite (e := .text "- $1,234_5.50 %") rfl rfl
  have amount : SpellsDecimal (undecorated priceText) (some (-24691 / 2)) := by
    refine ⟨⟨some true, "12345".toList, some "50".toList, none, rfl, rfl, .inl (by decide)⟩, rfl,
      rfl, ?_⟩
    change (-1 : ℚ) * ((12345 : ℕ) + (50 : ℕ) / 10 ^ 2) = -24691 / 2
    norm_num
  rw [spells.unique amount] at postgres sqlite
  exact ⟨decorated, few, postgres, sqlite⟩

end SheetSql
