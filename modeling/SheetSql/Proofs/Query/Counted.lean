import SheetSql.Proofs.Meaning.Decorated
import SheetSql.Proofs.Query.Cells
import SheetSql.Proofs.Query.Logic

namespace SheetSql

/-! The texts among the elements of a JSON cell that count as numbers, on each engine. -/

open Coerce Regex Matcher

namespace Chars

theorem exists_strip (drops : Char → Bool) (cs : List Char) :
    ∃ before after, (∀ c ∈ before, drops c = true) ∧ (∀ c ∈ after, drops c = true) ∧
      cs = before ++ strip drops cs ++ after := by
  refine ⟨cs.takeWhile drops, ((cs.dropWhile drops).reverse.takeWhile drops).reverse,
    List.all_eq_true.1 List.all_takeWhile,
    fun c member => List.all_eq_true.1 List.all_takeWhile c (List.mem_reverse.1 member), ?_⟩
  rw [strip, List.append_assoc, ← List.reverse_append, List.takeWhile_append_dropWhile,
    List.reverse_reverse, List.takeWhile_append_dropWhile]

theorem starts_append_cons (cs : List Char) (d : Char) (rest : List Char) :
    starts (cs ++ d :: rest) = starts cs ++ (starts rest).map fun found => cs ++ d :: found := by
  induction cs with
  | nil => rfl
  | cons c cs ih =>
    rw [List.cons_append, starts, ih, starts, List.map_append, List.map_map]
    rfl

/-- SQLite passes over blanks before a number and stops at those after it. -/
theorem leadingNumber_around {before : List Char} (number : Written)
    (first : ∀ c ∈ before, isSpace c = true) (last : ∀ c ∈ after, isSpace c = true) :
    leadingNumber (before ++ number.text ++ after) = number.decimal.value := by
  have kept : ∀ rest, (number.text ++ rest).dropWhile isSpace = number.text ++ rest := by
    intro rest
    cases split : number.text with
    | nil =>
      have read := number.read?_text
      rw [split] at read
      cases read
    | cons c tail =>
      have apart : isSpace c = false := isSpace_of_mem_text (split ▸ List.mem_cons_self)
      rw [List.cons_append, List.dropWhile_cons, apart, if_neg Bool.false_ne_true]
  have longest : (starts (number.text ++ after)).filterMap Decimal.read? =
      (starts number.text).filterMap Decimal.read? := by
    cases after with
    | nil => rw [List.append_nil]
    | cons d rest =>
      have longer : ((starts rest).map fun found => number.text ++ d :: found).filterMap
          Decimal.read? = [] := by
        refine List.filterMap_eq_nil_iff.2 fun found member => ?_
        obtain ⟨more, -, rfl⟩ := List.mem_map.1 member
        refine Option.eq_none_iff_forall_ne_some.2 fun decimal read => ?_
        obtain ⟨other, text⟩ := Written.exists_of_read? read
        have member : d ∈ other.text := text ▸ List.mem_append_right _ List.mem_cons_self
        have blank := isSpace_of_mem_text member
        rw [last d List.mem_cons_self] at blank
        cases blank
      rw [starts_append_cons, List.filterMap_append, longer, List.append_nil]
  rw [← leadingNumber_of_read? number.read?_text, leadingNumber, leadingNumber, List.append_assoc,
    List.dropWhile_append_of_pos first, kept, longest, ← List.append_nil number.text, kept,
    List.append_nil]

theorem isSpace_of_space (same : (c == ' ') = true) : isSpace c = true := by
  rw [eq_of_beq same]
  decide

theorem number_of_strip {number : Written} (blank : ∀ {c}, drops c = true → isSpace c = true)
    (text : strip drops cs = number.text) :
    strip isSpace cs = number.text ∧ leadingNumber cs = number.decimal.value := by
  obtain ⟨before, after, first, last, split⟩ := exists_strip drops cs
  rw [split, text]
  exact ⟨strip_around (fun c member => blank (first c member)) (fun c => isSpace_of_mem_text)
      fun c member => blank (last c member),
    leadingNumber_around number (fun c member => blank (first c member))
      fun c member => blank (last c member)⟩

theorem eq_of_sign (sign : "+-".toList.contains c = true) : c = '+' ∨ c = '-' := by
  simpa using sign

theorem prefix_of_mem_starts (member : found ∈ starts cs) : found <+: cs := by
  induction cs generalizing found with
  | nil => exact List.mem_singleton.1 member ▸ List.nil_prefix
  | cons c cs ih =>
    rcases List.mem_cons.1 member with rfl | longer
    · exact List.nil_prefix
    · obtain ⟨shorter, inside, rfl⟩ := List.mem_map.1 longer
      exact List.cons_prefix_cons.2 ⟨rfl, ih inside⟩

/-- Of several signs SQLite makes no number, and so it reads a zero. -/
theorem leadingNumber_signs {before : List Char} (first : ∀ c ∈ before, isSpace c = true)
    (one : "+-".toList.contains c = true) (other : "+-".toList.contains d = true) :
    leadingNumber (before ++ c :: d :: rest) = 0 := by
  have apart : isSpace c = false := by rcases eq_of_sign one with rfl | rfl <;> decide
  have noNumber : (starts (c :: d :: rest)).filterMap Decimal.read? = [] := by
    refine List.filterMap_eq_nil_iff.2 fun found member => ?_
    refine Option.eq_none_iff_forall_ne_some.2 fun decimal read => ?_
    obtain ⟨number, rfl⟩ := Written.exists_of_read? read
    obtain ⟨m, more, mantissa, noMinus, noPlus⟩ := number.mantissa_cons
    have unsigned : "+-".toList.contains m ≠ true := by simp [noMinus, noPlus]
    have starts := prefix_of_mem_starts member
    rw [Written.text, mantissa] at starts
    generalize number.sign = sign at starts
    rcases sign with _ | _ | _
    · exact unsigned ((List.cons_prefix_cons.1 starts).1 ▸ one)
    · exact unsigned ((List.cons_prefix_cons.1 (List.cons_prefix_cons.1 starts).2).1 ▸ other)
    · exact unsigned ((List.cons_prefix_cons.1 (List.cons_prefix_cons.1 starts).2).1 ▸ other)
  rw [leadingNumber, List.dropWhile_append_of_pos first, List.dropWhile_cons, apart,
    if_neg Bool.false_ne_true, noNumber]
  rfl

end Chars

/-- The texts that an engine counts as numbers. SQLite passes over all signs before the digits. -/
def IsCounted : Dialect → List Char → Prop
  | .postgres, cs =>
    ∃ number : Written, number.IsShort ∧ Chars.strip Chars.isSpace cs = number.text
  | .sqlite, cs =>
    ∃ number : Written, number.sign = none ∧ number.power = none ∧
      (Chars.strip (· == ' ') cs).dropWhile "+-".toList.contains = number.text

/-- A number without a power of ten and with nothing but spaces around it. -/
def Written.IsIn (number : Written) (cs : List Char) : Prop :=
  number.IsShort ∧ number.power = none ∧ Chars.strip (· == ' ') cs = number.text

theorem reads_power {blank : Char → Bool} {index : Nat} {before after : List Char}
    {power : Option Power} (few : ∀ p ∈ power, p.digits.length ≤ 2) :
    ∃ captures, (Regex.capture (Regex.oneOf "eE" ++ (Regex.oneOf "+-").opt ++
      Regex.digit.between 1 2)).opt.reads blank index before (Written.powerText power) after
      captures := by
  cases power with
  | none => exact ⟨[], times_opt.2 (.inl ⟨rfl, rfl⟩)⟩
  | some power =>
    have letter : (CharSet.ofText "eE").has power.letter = true := by
      rcases power.isLetter with same | same <;> rw [same] <;> rfl
    exact ⟨_, times_opt.2 (.inr ⟨[], rfl, power.letter :: Written.signText power.sign,
      power.digits, [], [], rfl, rfl,
      ⟨[power.letter], _, [], [], rfl, rfl, ⟨_, letter, rfl, rfl⟩, reads_sign power.sign⟩,
      reads_digits power.isDigits (List.length_pos_iff.2 power.filled) (few power rfl)⟩)⟩

theorem accepts_numericText_iff (cs : List Char) :
    numericText.Accepts cs ↔ IsCounted .postgres cs := by
  constructor
  · rintro ⟨captures, accepted⟩
    exact exists_written_of_numericText accepted
  · rintro ⟨number, short, text⟩
    obtain ⟨before, after, first, last, split⟩ := Chars.exists_strip Chars.isSpace cs
    obtain ⟨plain, noPower, whole, fraction, parts⟩ : ∃ plain : Written, plain.power = none ∧
        plain.whole.length ≤ 200 ∧ (plain.fraction.getD []).length ≤ 200 ∧
        number.text = plain.text ++ Written.powerText number.power :=
      ⟨{ number with power := none }, rfl, short.1, short.2.1,
        by simp [Written.text, Written.powerText, Written.mantissa]⟩
    have blanks : ∀ {index : Nat} {before found after : List Char},
        (∀ c ∈ found, Chars.isSpace c = true) →
        Regex.blank.many.reads Chars.isSpace index before found after [] := fun all =>
      times_one.2 ⟨Nat.zero_le _, by rintro _ ⟨⟩, all, rfl⟩
    rw [split, text, parts, ← List.append_assoc]
    exact ⟨_, [], _, [], (List.append_nil _).symm, _, [], _, [], (List.append_nil _).symm, rfl,
      ⟨_, after, _, [], rfl, rfl, ⟨_, _, _, _, rfl, rfl,
        ⟨before, _, [], _, rfl, rfl, ⟨[], before, [], [], rfl, rfl, ⟨rfl, rfl, rfl⟩, blanks first⟩,
          (reads_plainDecimal noPower whole fraction).choose_spec⟩,
        (reads_power short.2.2).choose_spec⟩, blanks last⟩, rfl, rfl, rfl⟩

theorem accepts_unsigned (cs : List Char) :
    (Glob.having (.set (.except [.span '0' '9', .one '.']))).accepts cs =
      cs.any fun c => !(c.isDigit || c == '.') := by
  refine (Glob.accepts_having _ cs).trans (congrArg cs.any (funext fun c => ?_))
  change ((c.isDigit || (c == '.' || false)) != true) = _
  cases c.isDigit <;> cases c == '.' <;> rfl

theorem Written.text_of_unsigned {number : Written} (unsigned : number.sign = none)
    (plain : number.power = none) : number.text = number.mantissa := by
  rw [text_of_plain plain, unsigned]
  rfl

theorem isSign_of_isMantissa {c : Char} (mantissa : (c.isDigit || c == '.') = true) :
    "+-".toList.contains c = false := by
  refine eq_false_of_ne_true fun sign => ?_
  rcases Chars.eq_of_sign sign with rfl | rfl <;> exact absurd mantissa (by decide)

theorem looksDecimal_iff (cs : List Char) :
    looksDecimal cs = true ↔ ∃ number : Written,
      number.sign = none ∧ number.power = none ∧ cs = number.text := by
  simp only [looksDecimal, accepts_unsigned, accepts_digit, Bool.and_eq_true, bne_iff_ne,
    Bool.not_eq_true']
  constructor
  · rintro ⟨⟨⟨-, unsigned⟩, digit⟩, points⟩
    have mantissa : ∀ c ∈ cs, (c.isDigit || c == '.') = true := by
      simpa only [List.any_eq_false, Bool.not_eq_true', Bool.not_eq_false] using unsigned
    have plain : IsPlain cs := by
      refine isPlain_iff_faultless.2 ⟨?_, digit, ?_, points⟩
      · refine List.any_eq_false.2 fun c member => ?_
        rw [isNumeric, mantissa c member]
        exact Bool.false_ne_true
      · refine List.any_eq_false.2 fun c member => ?_
        have unsigned := isSign_of_isMantissa (mantissa c (List.mem_of_mem_drop member))
        simpa using unsigned
    obtain ⟨number, noPower, rfl⟩ := plain.exists_written
    refine ⟨number, ?_, noPower, rfl⟩
    cases sign : number.sign with
    | none => rfl
    | some negative =>
      rw [Written.text_of_plain noPower, sign] at mantissa
      cases negative <;> exact absurd (mantissa _ List.mem_cons_self) (by decide)
  · rintro ⟨number, unsigned, noPower, rfl⟩
    obtain ⟨-, digit, -, points⟩ := isPlain_iff_faultless.1 (Written.isPlain_text noPower)
    refine ⟨⟨⟨?_, ?_⟩, digit⟩, points⟩
    · rintro empty
      rw [empty] at digit
      cases digit
    · refine List.any_eq_false.2 fun c member => ?_
      rw [Written.text_of_unsigned unsigned noPower] at member
      rw [number.isMantissa_of_mem member]
      decide

/-- Both engines count a text exactly if it is a number that is written in the plainest way. -/
theorem counted_iff (cs : List Char) :
    IsCounted .postgres cs ∧ IsCounted .sqlite cs ↔ ∃ number : Written, number.IsIn cs := by
  constructor
  · rintro ⟨⟨number, short, text⟩, unsigned, noSign, noPower, rest⟩
    have numeric : ∀ c ∈ Chars.strip (· == ' ') cs,
        isNumeric c = true ∧ Chars.isSpace c = false := by
      intro c member
      rw [← List.takeWhile_append_dropWhile (p := "+-".toList.contains)
        (l := Chars.strip (· == ' ') cs), rest] at member
      rcases List.mem_append.1 member with sign | digit
      · have sign := List.all_eq_true.1 List.all_takeWhile c sign
        rcases Chars.eq_of_sign sign with rfl | rfl <;> decide
      · exact ⟨Written.isNumeric_of_mem_text noPower digit, Chars.isSpace_of_mem_text digit⟩
    obtain ⟨before, after, first, last, split⟩ := Chars.exists_strip (· == ' ') cs
    have around := Chars.strip_around (fun c member => Chars.isSpace_of_space (first c member))
      (fun c member => (numeric c member).2) fun c member => Chars.isSpace_of_space (last c member)
    rw [← split, text] at around
    refine ⟨number, short, Written.power_of_isNumeric ?_, around.symm⟩
    rw [around]
    exact fun c member => (numeric c member).1
  · rintro ⟨number, short, noPower, text⟩
    refine ⟨⟨number, short, ?_⟩, { number with sign := none }, rfl, noPower, ?_⟩
    · exact (Chars.number_of_strip Chars.isSpace_of_space text).1
    · have bare : ({ number with sign := none } : Written).text = number.mantissa :=
        Written.text_of_unsigned rfl noPower
      have signs : ∀ c ∈ Written.signText number.sign, "+-".toList.contains c = true := by
        rcases number.sign with _ | _ | _ <;> simp [Written.signText]
      rw [text, Written.text_of_plain noPower, List.dropWhile_append_of_pos signs, bare,
        Chars.dropWhile_of_apart fun c member =>
          isSign_of_isMantissa (number.isMantissa_of_mem member)]

section

variable {dialect : Dialect} {cs : List Char} (counted : IsCounted dialect cs)

include counted

theorem castReal_of_isCounted :
    (Value.text cs).castReal dialect = some (.real (Chars.leadingNumber cs)) := by
  cases dialect with
  | sqlite => rfl
  | postgres =>
    obtain ⟨number, -, text⟩ := counted
    change (do return Value.real (← Decimal.read? (Chars.strip Chars.isSpace cs)).value) = _
    rw [(Chars.number_of_strip id text).2, text, number.read?_text]
    rfl

theorem IsCounted.reads :
    (∃ number : Written, Chars.strip Chars.isSpace cs = number.text ∧
      Chars.leadingNumber cs = number.decimal.value) ∨
    dialect = .sqlite ∧ Chars.leadingNumber cs = 0 := by
  cases dialect with
  | postgres =>
    obtain ⟨number, -, text⟩ := counted
    exact .inl ⟨number, Chars.number_of_strip id text⟩
  | sqlite =>
    obtain ⟨number, unsigned, plain, rest⟩ := counted
    have signs := List.takeWhile_append_dropWhile (p := "+-".toList.contains)
      (l := Chars.strip (· == ' ') cs)
    have all : ∀ c ∈ (Chars.strip (· == ' ') cs).takeWhile "+-".toList.contains,
        "+-".toList.contains c = true := List.all_eq_true.1 List.all_takeWhile
    rw [rest] at signs
    generalize (Chars.strip (· == ' ') cs).takeWhile "+-".toList.contains = taken at signs all
    obtain - | ⟨c, - | ⟨d, more⟩⟩ := taken
    · exact .inl ⟨number, Chars.number_of_strip Chars.isSpace_of_space signs.symm⟩
    · have signed :
          ({ number with sign := some (c == '-') } : Written).text = c :: number.text := by
        have parts : ({ number with sign := some (c == '-') } : Written).text =
          Written.signText (some (c == '-')) ++ number.mantissa := Written.text_of_plain plain
        rw [parts, Written.text_of_unsigned unsigned plain]
        rcases Chars.eq_of_sign (all c List.mem_cons_self) with rfl | rfl <;> rfl
      exact .inl ⟨_, Chars.number_of_strip Chars.isSpace_of_space (signs.symm.trans signed.symm)⟩
    · obtain ⟨before, after, first, -, split⟩ := Chars.exists_strip (· == ' ') cs
      rw [split, ← signs, List.append_assoc]
      exact .inr ⟨rfl, Chars.leadingNumber_signs
        (fun c member => Chars.isSpace_of_space (first c member)) (all c List.mem_cons_self)
        (all d (List.mem_cons_of_mem _ List.mem_cons_self))⟩

end

open Classical in
/-- The numbers that an engine takes out of an array of texts. -/
noncomputable def countedNumbers (dialect : Dialect) (contents : List String) : List Value :=
  (contents.filter fun content => IsCounted dialect content.toList).map fun content =>
    .real (Chars.leadingNumber content.toList)

/-- The values that the aggregate of a query is taken of. -/
noncomputable def Select.collected? (db : Database) (scope : Database.Scope) :
    Select → Option (List Value)
  | ⟨none, [⟨.call _ [value], _⟩],
      some (.function (.call function [arg]) ordinality label names), none, filter, []⟩ => do
      let items ← db.rowsOf function (← arg.answer db scope)
      let kept ← Database.keep? (fun row => answerFilter db row filter)
        (items.mapIdx (db.rowScope function label names ordinality))
      kept.mapM fun row => do (← value.answer db row).scalar?
  | _ => none

theorem exists_keep_mapM {α β γ : Type} {p : γ → Option Bool} {f : γ → Option β} {counts : α → Bool}
    {result : α → β} {items : List α} {row : Nat → α → γ}
    (filtered : ∀ i, ∀ item ∈ items, p (row i item) = some (counts item))
    (read : ∀ i, ∀ item ∈ items, counts item = true → f (row i item) = some (result item)) :
    ∃ kept, Database.keep? p (items.mapIdx row) = some kept ∧
      kept.mapM f = some ((items.filter counts).map result) := by
  induction items generalizing row with
  | nil => exact ⟨[], rfl, rfl⟩
  | cons item rest ih =>
    obtain ⟨kept, found, results⟩ := ih
      (fun i other member => filtered (i + 1) other (List.mem_cons_of_mem _ member))
      fun i other member => read (i + 1) other (List.mem_cons_of_mem _ member)
    have head := filtered 0 item List.mem_cons_self
    rw [List.mapIdx_cons, Database.keep?, found, head]
    cases counted : counts item with
    | false => exact ⟨kept, rfl, by rw [List.filter_cons_of_neg (by simp [counted]), results]⟩
    | true =>
      refine ⟨row 0 item :: kept, rfl, ?_⟩
      rw [List.filter_cons_of_pos counted, List.mapM_cons, results,
        read 0 item List.mem_cons_self counted]
      rfl

section

variable {db : Database} {scope : Database.Scope} {e : Expr}

theorem answerFilter_ofTruth {filter : Expr}
    (holds : filter.Answers db row (.value (.ofTruth db.dialect (some b)))) :
    answerFilter db row (some filter) = some b := by
  rw [answerFilter_some holds (Value.holds?_ofTruth db.dialect _)]
  cases b <;> rfl

theorem collected?_eq {function label aggregate : String} {arg value filter : Expr}
    {names : List String} {ordinality : Bool} {datum : Datum} {items : List Json}
    (counts : Json → Bool) (number : Json → Value) (source : arg.Answers db scope datum)
    (rows : db.rowsOf function datum = some items)
    (filtered : ∀ i, ∀ item ∈ items, filter.Answers db
      (db.rowScope function label names ordinality i item)
      (.value (.ofTruth db.dialect (some (counts item)))))
    (read : ∀ i, ∀ item ∈ items, counts item = true → value.Answers db
      (db.rowScope function label names ordinality i item) (.value (number item))) :
    ∃ query, Expr.subquery
        { Select.value (.call aggregate [value]) with
          source := some (.function (.call function [arg]) ordinality label names)
          filter := some filter } = .subquery query ∧
      query.collected? db scope = some ((items.filter counts).map number) ∧
      query.answer db scope =
        (db.aggregate aggregate (((items.filter counts).map number).map fun value => [value])).map
          .value := by
  have filtered : ∀ i, ∀ item ∈ items, answerFilter db
      (db.rowScope function label names ordinality i item) (some filter) = some (counts item) :=
    fun i item member => answerFilter_ofTruth (filtered i item member)
  refine ⟨_, rfl, ?_, ?_⟩
  · obtain ⟨kept, found, results⟩ := exists_keep_mapM
      (p := fun row => answerFilter db row (some filter)) (f := fun row => do
        (← value.answer db row).scalar?) filtered fun i item member counted => by
          rw [read i item member counted]
          rfl
    rw [Select.value, Select.of, Select.collected?, source]
    change ((db.rowsOf function datum).bind _) = _
    rw [rows]
    change ((Database.keep? (fun row => answerFilter db row filter) _).bind _) = _
    rw [found]
    exact results
  · obtain ⟨kept, found, results⟩ := exists_keep_mapM
      (p := fun row => answerFilter db row (some filter)) (f := fun row => do
        (← answerEach db row [value]).mapM Datum.scalar?) filtered fun i item member counted =>
          exists_scalars (show List.Forall₂ _ _ ([number item].map Datum.value) from
            .cons (read i item member counted) .nil)
    rw [Select.value, Select.of, Select.answer, source]
    change ((db.rowsOf function datum).bind _) = _
    rw [rows]
    change ((Database.keep? (fun row => answerFilter db row filter) _).bind _) = _
    rw [found, Option.bind_some, answerColumn, results, List.map_map]
    rfl

/-- What can be named where a query looks at an element of a cell. -/
def Select.row (db : Database) (query : Select) (i : Nat) (item : Json) : Database.Scope :=
  match query.source with
  | some (.function (.call function _) ordinality label names) =>
    db.rowScope function label names ordinality i item
  | _ => .empty

open Classical in
theorem answers_numericText (postgres : db.dialect = .postgres) (i : Nat) (content : String) :
    (regexMatch (.column none "__v") numericText).Answers db
      (db.rowScope "jsonb_array_elements_text" "__el" ["__v"] false i (.text content))
      (.value (.ofTruth db.dialect (some (decide (IsCounted db.dialect content.toList))))) := by
  have holds := answers_isNumericText db i (.text content)
  simp only [Json.text?, Option.map_some, accepts_numericText_iff, ← postgres] at holds
  exact holds

open Classical in
theorem answers_decimalText (sqlite : db.dialect = .sqlite) (i : Nat) (content : String) :
    ((isNumberType (eachColumn "type")).or
        (((eachColumn "type").eq (.text "text")).and (isDecimalText (eachColumn "value")))).Answers
      db (db.rowScope "json_each" "__el" [] false i (.text content))
      (.value (.ofTruth db.dialect (some (decide (IsCounted db.dialect content.toList))))) := by
  have type : (eachColumn "type").Answers db _ (.value (.text "text".toList)) :=
    answers_eachType db i (.text content)
  have noNumber : (isNumberType (eachColumn "type")).Answers db _
      (.value (.ofTruth db.dialect (some false))) :=
    .member false type (Expr.Answers.texts ["integer", "real"]) (by decide)
  have isText : ((eachColumn "type").eq (.text "text")).Answers db _
      (.value (.ofTruth db.dialect (some ("text".toList == "text".toList)))) :=
    .binary type (.text "text") fun _ => rfl
  obtain ⟨truth, decimal, known⟩ :=
    exists_isDecimalText sqlite (answers_eachValue db i (.text content))
  have either : ∀ b, Value.orTruth (some false) (Value.andTruth (some true) (some b)) = some b := by
    decide
  have same : decide (IsCounted db.dialect content.toList) = looksDecimal
      ((Chars.strip (· == ' ') content.toList).dropWhile "+-".toList.contains) := by
    rw [sqlite, Bool.eq_iff_iff, decide_eq_true_iff, looksDecimal_iff]
    rfl
  have holds := noNumber.or (isText.and decimal)
  rw [known _ rfl, beq_self_eq_true, either, ← same] at holds
  exact holds

open Classical in
theorem exists_filter_jsonNumber (db : Database) (aggregate : String) (e : Expr) :
    ∃ query, jsonNumber db.dialect aggregate e = .subquery query ∧
      ∀ i content, ∃ kept,
        answerFilter db (query.row db i (.text content)) query.filter = some kept ∧
          (kept = true ↔ IsCounted db.dialect content.toList) := by
  cases dialect : db.dialect with
  | postgres =>
    refine ⟨_, rfl, fun i content => ?_⟩
    rw [← dialect]
    exact ⟨_, answerFilter_ofTruth (answers_numericText dialect i content), decide_eq_true_iff⟩
  | sqlite =>
    refine ⟨_, rfl, fun i content => ?_⟩
    rw [← dialect]
    exact ⟨_, answerFilter_ofTruth (answers_decimalText dialect i content), decide_eq_true_iff⟩

open Classical in
theorem collected?_jsonNumber {contents : List String} (aggregate : String)
    (value : e.Answers db scope (.value v))
    (spelled : db.jsonOf v = some (.array (contents.map .text))) :
    ∃ query, jsonNumber db.dialect aggregate e = .subquery query ∧
      query.collected? db scope = some (countedNumbers db.dialect contents) ∧
      query.answer db scope = (db.aggregate aggregate
        ((countedNumbers db.dialect contents).map fun value => [value])).map .value := by
  let chars : Json → List Char := fun item => (item.text? db.write).getD []
  let counts : Json → Bool := fun item => IsCounted db.dialect (chars item)
  let number : Json → Value := fun item => .real (Chars.leadingNumber (chars item))
  have numbers : ((contents.map Json.text).filter counts).map number =
      countedNumbers db.dialect contents := by
    rw [List.filter_map, List.map_map]
    rfl
  have real : ∀ {row : Database.Scope} {column : Expr} {content : String},
      column.Answers db row (.value (.text content.toList)) → counts (.text content) = true →
      (column.cast .double).Answers db row (.value (number (.text content))) :=
    fun text counted => .cast text (congrArg (Option.map Datum.value)
      (castReal_of_isCounted (of_decide_eq_true counted)))
  rw [← numbers]
  cases dialect : db.dialect with
  | postgres =>
    exact collected?_eq counts number (answers_asArray_of_json value spelled) rfl
      (fun i => List.forall_mem_map.2 fun content _ => answers_numericText dialect i content)
      fun i => List.forall_mem_map.2 fun content _ => real (answers_element db i (.text content))
  | sqlite =>
    obtain ⟨source, rows⟩ := answers_asJson_of_json dialect value spelled
    exact collected?_eq counts number source rows
      (fun i => List.forall_mem_map.2 fun content _ => answers_decimalText dialect i content)
      fun i => List.forall_mem_map.2 fun content _ =>
        real (answers_eachValue db i (.text content))

end

/--
Postgres counts the texts that are one number, with blanks of every kind around it and perhaps a
power of ten. SQLite knows no power and no blank but the space, and it passes over all signs before
the digits; several of them make a zero. Both take the same numbers out of a cell whose texts are
plain numbers or count nowhere.
-/
theorem json_texts_counted (db : Database) {scope : Database.Scope} {e : Expr} {v : Value}
    (contents : List String) (aggregate : String) (value : e.Answers db scope (.value v))
    (spelled : db.jsonOf v = some (.array (contents.map .text))) :
    (∃ query, jsonNumber db.dialect aggregate e = .subquery query ∧
      (∀ i content, ∃ kept,
        answerFilter db (query.row db i (.text content)) query.filter = some kept ∧
          (kept = true ↔ IsCounted db.dialect content.toList)) ∧
      query.collected? db scope = some (countedNumbers db.dialect contents) ∧
      query.answer db scope = (db.aggregate aggregate
        ((countedNumbers db.dialect contents).map fun value => [value])).map .value) ∧
    (∀ cs, (∀ dialect, IsCounted dialect cs) ↔ ∃ number : Written, number.IsIn cs) ∧
    (∀ dialect cs, IsCounted dialect cs →
      (∃ number : Written, Chars.strip Chars.isSpace cs = number.text ∧
        Chars.leadingNumber cs = number.decimal.value) ∨
      dialect = .sqlite ∧ Chars.leadingNumber cs = 0) ∧
    ((∀ content ∈ contents, (∃ number : Written, number.IsIn content.toList) ∨
        ∀ dialect, ¬ IsCounted dialect content.toList) →
      countedNumbers .postgres contents = countedNumbers .sqlite contents) := by
  have both : ∀ cs, (∀ dialect, IsCounted dialect cs) ↔ ∃ number : Written, number.IsIn cs := by
    intro cs
    rw [← counted_iff]
    exact ⟨fun all => ⟨all .postgres, all .sqlite⟩, fun ⟨one, other⟩ dialect => by
      cases dialect
      · exact one
      · exact other⟩
  refine ⟨?_, both, fun _ _ => IsCounted.reads, fun alike => ?_⟩
  · obtain ⟨query, form, filter⟩ := exists_filter_jsonNumber db aggregate e
    obtain ⟨_, same, collected⟩ := collected?_jsonNumber aggregate value spelled
    obtain rfl := Expr.subquery.inj (form.symm.trans same)
    exact ⟨query, form, filter, collected⟩
  · refine congrArg (List.map _) (List.filter_congr fun content member => decide_eq_decide.2 ?_)
    rcases alike content member with plain | neither
    · have all := (both content.toList).2 plain
      exact iff_of_true (all .postgres) (all .sqlite)
    · exact iff_of_false (neither .postgres) (neither .sqlite)

noncomputable def pricesDatabase (dialect : Dialect) : Database :=
  { Database.plain (constantRow dialect) with
    toEngine := .ofRow (constantRow dialect) fun _ => some (.array [.text " -5. "])
    write_json := fun _ => rfl
    wrap_json := fun _ => ⟨_, rfl⟩ }

theorem json_texts_counted_prices :
    (pricesDatabase .sqlite).jsonOf (.text "[]".toList) = some (.array ([" -5. "].map .text)) ∧
      ∃ query, jsonNumber .sqlite "SUM" (.text "[]") = .subquery query ∧
        query.collected? (pricesDatabase .sqlite) .empty =
          some (countedNumbers .sqlite [" -5. "]) := by
  obtain ⟨⟨query, form, -, collected, -⟩, -⟩ :=
    json_texts_counted (pricesDatabase .sqlite) [" -5. "] "SUM" (.text "[]") rfl
  exact ⟨rfl, query, form, collected⟩

theorem json_texts_counted_signs :
    (∀ db : Database, ∃ query, jsonNumber db.dialect "COUNT" (.column none "j") = .subquery query ∧
      answerFilter db (query.row db 0 (.text "--5")) query.filter = some (db.dialect == .sqlite)) ∧
    Chars.leadingNumber "--5".toList = 0 := by
  have signs : ¬ IsCounted .postgres "--5".toList := by
    rintro ⟨number, -, text⟩
    have noNumber : Decimal.read? (Chars.strip Chars.isSpace "--5".toList) = none := by decide
    rw [text, number.read?_text] at noNumber
    cases noNumber
  have counted : IsCounted .sqlite "--5".toList :=
    ⟨⟨none, ['5'], none, none, by decide, by decide, by decide⟩, rfl, rfl, by decide⟩
  have zero : Chars.leadingNumber ([] ++ '-' :: '-' :: ['5']) = 0 :=
    Chars.leadingNumber_signs (List.forall_mem_nil _) (by decide) (by decide)
  refine ⟨fun db => ?_, zero⟩
  obtain ⟨query, form, filter⟩ := exists_filter_jsonNumber db "COUNT" (.column none "j")
  obtain ⟨kept, found, counts⟩ := filter 0 "--5"
  refine ⟨query, form, found.trans (congrArg some (Bool.eq_iff_iff.2 (counts.trans ?_)))⟩
  cases db.dialect with
  | postgres => exact iff_of_false signs (by decide)
  | sqlite => exact iff_of_true counted rfl

end SheetSql
