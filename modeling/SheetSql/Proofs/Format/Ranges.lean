import SheetSql.Compile.DateText
import SheetSql.Proofs.Matching.Meaning
import SheetSql.Proofs.Meaning.Eval

namespace SheetSql.Format

/-! The ranges of the parts of a date. -/

open Regex Matcher

structure IsNumber (low high : Nat) (cs : List Char) : Prop where
  filled : cs ≠ []
  digits : Decimal.isDigits cs = true
  low_le : low ≤ Decimal.natOf cs
  le_high : Decimal.natOf cs ≤ high

def IsDigitIn (low high : Nat) (c : Char) : Prop :=
  48 + low ≤ c.toNat ∧ c.toNat ≤ 48 + high

theorem isDigit_of_isDigitIn (small : high ≤ 9) (digit : IsDigitIn low high c) :
    c.isDigit = true := by
  obtain ⟨lower, upper⟩ := digit
  have first : 48 ≤ c.toNat := by omega
  have last : c.toNat ≤ 57 := by omega
  simpa [Char.isDigit, UInt32.le_iff_toNat_le] using And.intro first last

theorem isNumber_one (small : high ≤ 9) (digit : IsDigitIn low high c) : IsNumber low high [c] := by
  obtain ⟨lower, upper⟩ := digit
  have value : Decimal.natOf [c] = c.toNat - 48 := by
    simp [Decimal.natOf]
  refine ⟨by simp, ?_, ?_, ?_⟩
  · simp [Decimal.isDigits, isDigit_of_isDigitIn small ⟨lower, upper⟩]
  · omega
  · omega

theorem isNumber_two (small : high ≤ 9) (small' : high' ≤ 9) (first : IsDigitIn low high c)
    (second : IsDigitIn low' high' d) : IsNumber (10 * low + low') (10 * high + high') [c, d] := by
  have isFirst := isDigit_of_isDigitIn small first
  have isSecond := isDigit_of_isDigitIn small' second
  obtain ⟨lower, upper⟩ := first
  obtain ⟨lower', upper'⟩ := second
  have value : Decimal.natOf [c, d] = 10 * (c.toNat - 48) + (d.toNat - 48) := by
    simp [Decimal.natOf]
  refine ⟨by simp, ?_, ?_, ?_⟩
  · simp [Decimal.isDigits, isFirst, isSecond]
  · omega
  · omega

theorem IsNumber.mono (number : IsNumber low high cs) (below : low' ≤ low) (above : high ≤ high') :
    IsNumber low' high' cs :=
  ⟨number.filled, number.digits, below.trans number.low_le, number.le_high.trans above⟩

def ReadsDigit (blank : Char → Bool) (low high : Nat) (r : Regex) : Prop :=
  ∀ {index before found after captures}, r.reads blank index before found after captures →
    ∃ c, found = [c] ∧ IsDigitIn low high c

section

variable {blank : Char → Bool} {index : Nat} {before found after : List Char} {captures : Captures}

theorem readsDigit_digit : ReadsDigit blank 0 9 .digit := by
  intro index before found after captures read
  obtain ⟨c, isDigit, rfl, -⟩ := read
  have bounds : 48 ≤ c.toNat ∧ c.toNat ≤ 57 := by
    simpa [Char.isDigit, UInt32.le_iff_toNat_le] using isDigit
  exact ⟨c, rfl, bounds⟩

theorem readsDigit_char {c : Char} (value : Nat) (isValue : c.toNat = 48 + value) :
    ReadsDigit blank value value (.char c) := by
  intro index before found after captures read
  obtain ⟨x, same, rfl, -⟩ := read
  rw [eq_of_beq same]
  exact ⟨c, rfl, isValue.ge, isValue.le⟩

theorem readsDigit_span {first last : Char} (low high : Nat) (isLow : first.toNat = 48 + low)
    (isHigh : last.toNat = 48 + high) : ReadsDigit blank low high (span first last) := by
  intro index before found after captures read
  obtain ⟨c, has, rfl, -⟩ := read
  have bounds : first.toNat ≤ c.toNat ∧ c.toNat ≤ last.toNat := by
    simpa [CharSet.has, CharSet.of, CharRange.has, Char.le_def, UInt32.le_iff_toNat_le] using has
  exact ⟨c, rfl, isLow.ge.trans bounds.1, bounds.2.trans isHigh.le⟩

theorem readsDigit_oneOf {members : String} (low high : Nat)
    (bounds : (members.toList.all fun c => 48 + low ≤ c.toNat && c.toNat ≤ 48 + high) = true) :
    ReadsDigit blank low high (oneOf members) := by
  intro index before found after captures read
  obtain ⟨c, has, rfl, -⟩ := read
  have member : c ∈ members.toList := by
    simpa [CharSet.has, CharSet.ofText, CharSet.of, CharRange.has, List.any_eq_true] using has
  have bound := List.all_eq_true.1 bounds c member
  simp only [Bool.and_eq_true, decide_eq_true_eq] at bound
  exact ⟨c, rfl, bound⟩

variable {low high low' high' : Nat} {first second : Regex}

theorem isNumber_seq (small : high ≤ 9) (small' : high' ≤ 9)
    (readsFirst : ReadsDigit blank low high first)
    (readsSecond : ReadsDigit blank low' high' second)
    (read : (first ++ second).reads blank index before found after captures) :
    IsNumber (10 * low + low') (10 * high + high') found := by
  obtain ⟨_, _, _, _, rfl, -, readFirst, readSecond⟩ := read
  obtain ⟨c, rfl, tens⟩ := readsFirst readFirst
  obtain ⟨d, rfl, ones⟩ := readsSecond readSecond
  exact isNumber_two small small' tens ones

theorem isNumber_opt_seq (small : high ≤ 9) (small' : high' ≤ 9)
    (readsFirst : ReadsDigit blank low high first)
    (readsSecond : ReadsDigit blank low' high' second)
    (read : (first.opt ++ second).reads blank index before found after captures) :
    IsNumber low' (10 * high + high') found := by
  obtain ⟨_, _, _, _, rfl, -, readFirst, readSecond⟩ := read
  obtain ⟨d, rfl, ones⟩ := readsSecond readSecond
  rcases times_opt.1 readFirst with ⟨rfl, -⟩ | readFirst
  · exact (isNumber_one small' ones).mono le_rfl (by omega)
  · obtain ⟨c, rfl, tens⟩ := readsFirst readFirst
    exact (isNumber_two small small' tens ones).mono (by omega) le_rfl

theorem isNumber_twelve (read : twelve.reads blank index before found after captures) :
    IsNumber 1 12 found := by
  rcases read with read | read
  · exact (isNumber_opt_seq (by decide) (by decide) (readsDigit_char 0 rfl)
      (readsDigit_span 1 9 rfl rfl) read).mono (by decide) (by decide)
  · exact (isNumber_seq (by decide) (by decide) (readsDigit_char 1 rfl)
      (readsDigit_span 0 2 rfl rfl) read).mono (by decide) (by decide)

theorem isNumber_dayOfMonth (read : dayOfMonth.reads blank index before found after captures) :
    IsNumber 1 31 found := by
  rcases read with read | read | read
  · exact (isNumber_opt_seq (by decide) (by decide) (readsDigit_char 0 rfl)
      (readsDigit_span 1 9 rfl rfl) read).mono (by decide) (by decide)
  · exact (isNumber_seq (by decide) (by decide) (readsDigit_oneOf 1 2 rfl)
      readsDigit_digit read).mono (by decide) (by decide)
  · exact (isNumber_seq (by decide) (by decide) (readsDigit_char 3 rfl)
      (readsDigit_oneOf 0 1 rfl) read).mono (by decide) (by decide)

theorem isNumber_hourOfDay (read : hourOfDay.reads blank index before found after captures) :
    IsNumber 0 23 found := by
  rcases read with read | read
  · exact (isNumber_opt_seq (by decide) (by decide) (readsDigit_oneOf 0 1 rfl)
      readsDigit_digit read).mono (by decide) (by decide)
  · exact (isNumber_seq (by decide) (by decide) (readsDigit_char 2 rfl)
      (readsDigit_span 0 3 rfl rfl) read).mono (by decide) (by decide)

theorem isNumber_sixty (read : sixty.reads blank index before found after captures) :
    IsNumber 0 59 found :=
  isNumber_opt_seq (by decide) (by decide) (readsDigit_span 0 5 rfl rfl) readsDigit_digit read

theorem reads_altAll (filled : options ≠ [])
    (read : (altAll options).reads blank index before found after captures) :
    ∃ option ∈ options, ∃ number, option.reads blank number before found after captures := by
  induction options generalizing index with
  | nil => exact absurd rfl filled
  | cons option options ih =>
    cases options with
    | nil => exact ⟨option, List.mem_cons_self, index, read⟩
    | cons other options =>
      rcases read with read | read
      · exact ⟨option, List.mem_cons_self, index, read⟩
      · obtain ⟨found, member, reads⟩ := ih (by simp) read
        exact ⟨found, List.mem_cons_of_mem _ member, reads⟩

def isLetterOfCase (c : Char) : Bool :=
  c.toUpper.toLower == c.toLower && c.toLower.toLower == c.toLower

theorem sameLetters_of_reads {letters : List Char} (cased : letters.all isLetterOfCase = true)
    (read : (seqAll (letters.map fun c => .set (.of [.one c.toUpper, .one c.toLower]))).reads
      blank index before found after captures) :
    found.map Char.toLower = letters.map Char.toLower := by
  induction letters generalizing index before found captures with
  | nil =>
    obtain ⟨rfl, -⟩ := read
    rfl
  | cons c letters ih =>
    rw [List.all_cons, Bool.and_eq_true] at cased
    rw [List.map_cons, (Same.seqAll_cons _ _).reads] at read
    obtain ⟨_, tail, _, _, rfl, -, ⟨x, has, rfl, -⟩, rest⟩ := read
    have either : x = c.toUpper ∨ x = c.toLower := by
      simpa [CharSet.has, CharSet.of, CharRange.has] using has
    have letter : x.toLower = c.toLower := by
      obtain ⟨upper, lower⟩ := Bool.and_eq_true_iff.1 cased.1
      rcases either with rfl | rfl
      · exact eq_of_beq upper
      · exact eq_of_beq lower
    simp [letter, ih cased.2 rest]

/-- An English month by its number, in full or in short and in any letter case. -/
def IsMonthName (number : Nat) (cs : List Char) : Prop :=
  1 ≤ number ∧ number ≤ 12 ∧ ∃ names ∈ [monthNames, monthAbbreviations], ∃ name,
    names[number - 1]? = some name ∧ Text.sameLetters cs name.toList = true

theorem isMonthName_of_reads (known : names ∈ [monthNames, monthAbbreviations])
    (read : (altAll (names.map anyCase)).reads blank index before found after captures) :
    ∃ number, IsMonthName number found := by
  have count : names.length = 12 ∧
      (names.all fun name => name.toList.all isLetterOfCase) = true := by
    rcases List.mem_cons.1 known with rfl | known
    · exact ⟨rfl, rfl⟩
    · rw [List.mem_singleton.1 known]
      exact ⟨rfl, rfl⟩
  have filled : names.map anyCase ≠ [] := by
    intro empty
    rw [List.map_eq_nil_iff.1 empty] at count
    cases count.1
  obtain ⟨_, among, _, read⟩ := reads_altAll filled read
  obtain ⟨name, member, rfl⟩ := List.mem_map.1 among
  obtain ⟨position, bound, isName⟩ := List.getElem_of_mem member
  have letters := sameLetters_of_reads (List.all_eq_true.1 count.2 name member) read
  refine ⟨position + 1, by omega, by omega, names, known, name, ?_, ?_⟩
  · rw [Nat.add_sub_cancel, List.getElem?_eq_getElem bound, isName]
  · rw [Text.sameLetters, letters]
    exact beq_self_eq_true _

end

/-- The texts in which `monthOfName` looks for the start of a name. -/
def monthStarts : List Char := (String.join (monthAbbreviations.map Text.lowered)).toList

theorem eval_monthOfName {row : Row} (postgres : row.dialect = .postgres) {e : Expr}
    {cs : List Char} (value : e.eval row = some (.text cs))
    (ascii : ((cs.take 3).all fun c => c.toNat < 128) = true) :
    (Call.monthOfName e).eval row =
      some (.int
        (((Chars.position ((cs.take 3).map Char.toLower) monthStarts : Int) + 2).tdiv 3)) := by
  have start : (Expr.call "SUBSTR" [e, 1, 3]).eval row = some (.text (cs.take 3)) := by
    have args : evalEach row [e, 1, 3] = some [.text cs, .int 1, .int 3] :=
      evalEach_cons value rfl
    rw [eval_call (by decide) args]
    rfl
  have lower : (Expr.call "LOWER" [.call "SUBSTR" [e, 1, 3]]).eval row =
      some (.text ((cs.take 3).map Char.toLower)) := by
    rw [eval_call (by decide) (evalEach_cons start evalEach_nil), Value.apply_lower ascii]
  have found : (Expr.call "strpos"
      [.text (String.join (monthAbbreviations.map Text.lowered)),
        .call "LOWER" [.call "SUBSTR" [e, 1, 3]]]).eval row =
      some (.int (Chars.position ((cs.take 3).map Char.toLower) monthStarts)) := by
    rw [eval_call (by decide) (evalEach_cons rfl (evalEach_cons lower evalEach_nil))]
    rfl
  have sum := (eval_binary .add found (show (2 : Expr).eval row = some (.int 2) from rfl)).trans
    (show _ = some (Value.int (Chars.position ((cs.take 3).map Char.toLower) monthStarts + 2)) from
      rfl)
  have three : (3 : Expr).eval row = some (.int 3) := rfl
  refine (eval_binary .div sum three).trans ?_
  rw [Row.binary, postgres]
  rfl

theorem toNat_lt_of_toLower {c : Char} (ascii : c.toLower.toNat < 128) : c.toNat < 128 := by
  unfold Char.toLower at ascii
  split at ascii
  · next letter =>
      have bound : c.toNat ≤ 90 := letter.2
      omega
  · exact ascii

theorem position_monthStarts (known : names ∈ [monthNames, monthAbbreviations])
    (isName : names[position]? = some name) :
    Chars.position ((name.toList.map Char.toLower).take 3) monthStarts = 3 * position + 1 ∧
      ((name.toList.map Char.toLower).all fun c => c.toNat < 128) = true := by
  have table : ([monthNames, monthAbbreviations].all fun names => names.zipIdx.all fun entry =>
      Chars.position ((entry.1.toList.map Char.toLower).take 3) monthStarts == 3 * entry.2 + 1 &&
        (entry.1.toList.map Char.toLower).all fun c => c.toNat < 128) = true := by decide +kernel
  have row := List.all_eq_true.1 (List.all_eq_true.1 table names known) (name, position)
    (List.mem_zipIdx_iff_getElem?.2 isName)
  rw [Bool.and_eq_true, beq_iff_eq] at row
  exact row

theorem eval_month {row : Row} (postgres : row.dialect = .postgres) (month : IsMonthName number cs)
    {e : Expr} (value : e.eval row = some (.text cs)) :
    (Call.monthOfName e).eval row = some (.int number) := by
  obtain ⟨first, -, names, known, name, isName, letters⟩ := month
  obtain ⟨position, ascii⟩ := position_monthStarts known isName
  have letters : cs.map Char.toLower = name.toList.map Char.toLower := eq_of_beq letters
  have ascii : ((cs.take 3).all fun c => c.toNat < 128) = true := by
    apply List.all_eq_true.2
    intro c member
    have lower : c.toLower ∈ name.toList.map Char.toLower := by
      rw [← letters]
      exact List.mem_map_of_mem (List.mem_of_mem_take member)
    have bound := List.all_eq_true.1 ascii _ lower
    rw [decide_eq_true_eq] at bound ⊢
    exact toNat_lt_of_toLower bound
  have start : (cs.take 3).map Char.toLower = (name.toList.map Char.toLower).take 3 := by
    rw [List.map_take, letters]
  rw [eval_monthOfName postgres value ascii, start, position]
  have whole : ((3 * (number - 1) + 1 : Nat) : Int) + 2 = 3 * number := by omega
  rw [whole, Int.mul_tdiv_cancel_left _ (by decide)]

def InRange : DatePart → List Char → Prop
  | .year, cs => Decimal.isDigits cs = true ∧ cs.length = 4
  | .month, cs => IsNumber 1 12 cs
  | .day, cs => IsNumber 1 31 cs
  | .hour, cs => IsNumber 0 23 cs
  | .minute, cs => IsNumber 0 59 cs
  | .second, cs => IsNumber 0 59 cs
  | .millisecond, cs => Decimal.isDigits cs = true ∧ 1 ≤ cs.length ∧ cs.length ≤ 3

structure Holds (capture : Capture) (cs : List Char) : Prop where
  number : capture.isName = false → InRange capture.part cs
  name : capture.isName = true → capture.part = .month ∧ ∃ number, IsMonthName number cs

def datedTokens : List (DatePart × Bool × Regex) :=
  [(.month, true, altAll (monthNames.map anyCase)), (.hour, false, hourOfDay),
   (.year, false, Regex.digit.between 4 4),
   (.month, true, altAll (monthAbbreviations.map anyCase)), (.day, false, dayOfMonth),
   (.minute, false, sixty), (.month, false, twelve),
   (.millisecond, false, Regex.digit.between 1 3), (.second, false, sixty)]

theorem holds_of_reads {blank : Char → Bool} {index : Nat} {before found after : List Char}
    {captures : Captures} {token : Token} {part : DatePart} (known : token ∈ tokens)
    (dated : token.part = some part)
    (read : token.pattern.reads blank index before found after captures) (number : Nat) :
    Holds ⟨part, number, token.isName⟩ found := by
  have table : (tokens.filterMap fun token =>
      token.part.map fun part => (part, token.isName, token.pattern)) = datedTokens := by rfl
  have member : (part, token.isName, token.pattern) ∈ datedTokens := by
    rw [← table]
    exact List.mem_filterMap.2 ⟨token, known, by rw [dated]; rfl⟩
  -- The table has the patterns of all parts, and each of them has its own range.
  generalize token.isName = isName at member ⊢
  generalize token.pattern = pattern at member read
  simp only [datedTokens, List.mem_cons, List.not_mem_nil, or_false, Prod.mk.injEq] at member
  rcases member with ⟨rfl, rfl, rfl⟩ | ⟨rfl, rfl, rfl⟩ | ⟨rfl, rfl, rfl⟩ | ⟨rfl, rfl, rfl⟩ |
    ⟨rfl, rfl, rfl⟩ | ⟨rfl, rfl, rfl⟩ | ⟨rfl, rfl, rfl⟩ | ⟨rfl, rfl, rfl⟩ | ⟨rfl, rfl, rfl⟩
  · exact ⟨nofun, fun _ => ⟨rfl, isMonthName_of_reads List.mem_cons_self read⟩⟩
  · exact ⟨fun _ => isNumber_hourOfDay read, nofun⟩
  · obtain ⟨digits, least, most⟩ := isDigits_of_reads read
    exact ⟨fun _ => ⟨digits, Nat.le_antisymm most least⟩, nofun⟩
  · exact ⟨nofun, fun _ => ⟨rfl, isMonthName_of_reads
      (List.mem_cons_of_mem _ List.mem_cons_self) read⟩⟩
  · exact ⟨fun _ => isNumber_dayOfMonth read, nofun⟩
  · exact ⟨fun _ => isNumber_sixty read, nofun⟩
  · exact ⟨fun _ => isNumber_twelve read, nofun⟩
  · exact ⟨fun _ => isDigits_of_reads read, nofun⟩
  · exact ⟨fun _ => isNumber_sixty read, nofun⟩

end SheetSql.Format
