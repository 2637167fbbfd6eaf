import SheetSql.Coerce.Number
import SheetSql.Proofs.Meaning.Value
import SheetSql.Proofs.Number.Plain

namespace SheetSql

/-! Numbers that texts spell more or less exactly. -/

open Coerce Regex Matcher

namespace Chars

theorem isSpace_of_mem_text {number : Written} (member : c ∈ number.text) : isSpace c = false := by
  have digit : ∀ {c : Char}, c.isDigit = true → isSpace c = false := by
    intro c isDigit
    by_contra space
    simp only [isSpace, Bool.not_eq_false, Bool.or_eq_true, beq_iff_eq] at space
    rcases space with ((((rfl | rfl) | rfl) | rfl) | rfl) | rfl <;> cases isDigit
  have sign : ∀ {sign : Option Bool} {c : Char}, c ∈ Written.signText sign →
      isSpace c = false := by
    intro sign c member
    cases sign with
    | none => cases member
    | some negative =>
      cases negative <;>
        · rw [List.mem_singleton.1 member]
          rfl
  rcases List.mem_append.1 member with member | member
  · exact sign member
  rcases List.mem_append.1 member with member | member
  · have either := number.isMantissa_of_mem member
    rw [Bool.or_eq_true, beq_iff_eq] at either
    rcases either with isDigit | rfl
    · exact digit isDigit
    · rfl
  · cases isPower : number.power with
    | none =>
      rw [isPower] at member
      cases member
    | some power =>
      rw [isPower] at member
      rcases List.mem_cons.1 member with rfl | member
      · rcases power.isLetter with same | same <;>
          · rw [same]
            rfl
      · rcases List.mem_append.1 member with member | member
        · exact sign member
        · exact digit (Written.isDigit_of_isDigits power.isDigits member)

theorem dropWhile_of_apart {drops : Char → Bool} {cs : List Char}
    (apart : ∀ c ∈ cs, drops c = false) : cs.dropWhile drops = cs := by
  cases cs with
  | nil => rfl
  | cons c cs => rw [List.dropWhile_cons, apart c List.mem_cons_self, if_neg (by decide)]

theorem strip_around {drops : Char → Bool} {before inner after : List Char}
    (first : ∀ c ∈ before, drops c = true) (apart : ∀ c ∈ inner, drops c = false)
    (last : ∀ c ∈ after, drops c = true) : strip drops (before ++ inner ++ after) = inner := by
  have ends : ∀ c ∈ after.reverse, drops c = true := fun c member =>
    last c (List.mem_reverse.1 member)
  have back : ∀ c ∈ inner.reverse, drops c = false := fun c member =>
    apart c (List.mem_reverse.1 member)
  rw [strip, List.append_assoc, List.dropWhile_append_of_pos first]
  cases inner with
  | nil =>
    have none : (after ++ []).dropWhile drops = [] := List.dropWhile_append_of_pos last
    rw [List.append_nil] at none
    rw [List.nil_append, none]
    rfl
  | cons c rest =>
    have stays : (c :: rest ++ after).dropWhile drops = c :: rest ++ after := by
      rw [List.cons_append, List.dropWhile_cons, apart c List.mem_cons_self, if_neg (by decide)]
    rw [stays, List.reverse_append, List.dropWhile_append_of_pos ends, dropWhile_of_apart back,
      List.reverse_reverse]

theorem strip_eq_self {drops : Char → Bool} {cs : List Char}
    (apart : ∀ c ∈ cs, drops c = false) : strip drops cs = cs := by
  have back : ∀ c ∈ cs.reverse, drops c = false := fun c member =>
    apart c (List.mem_reverse.1 member)
  rw [strip, dropWhile_of_apart apart, dropWhile_of_apart back, List.reverse_reverse]

theorem replaceAll_one (c : Char) (cs : List Char) :
    replaceAll [c] [] 0 cs = cs.filter (· != c) := by
  induction cs with
  | nil => rfl
  | cons x cs ih =>
    have found : Text.startsWith [c] (x :: cs) = (c == x) := by
      rw [Text.startsWith, Text.rest?]
      cases c == x <;> rfl
    rw [replaceAll, found, List.filter_cons]
    by_cases same : c = x
    · subst same
      simp [ih]
    · have other : (c == x) = false := beq_false_of_ne same
      simp [other, ih, bne_iff_ne, Ne.symm same]

theorem starts_eq_concat (cs : List Char) : ∃ shorter, starts cs = shorter ++ [cs] := by
  induction cs with
  | nil => exact ⟨[], rfl⟩
  | cons c cs ih =>
    obtain ⟨shorter, split⟩ := ih
    exact ⟨[] :: shorter.map (c :: ·), by rw [starts, split, List.map_append]; rfl⟩

theorem leadingNumber_of_read? {cs : List Char} {decimal : Decimal}
    (read : Decimal.read? cs = some decimal) : leadingNumber cs = decimal.value := by
  obtain ⟨number, rfl⟩ := Written.exists_of_read? read
  obtain ⟨shorter, split⟩ := starts_eq_concat number.text
  have whole : number.text.dropWhile isSpace = number.text :=
    dropWhile_of_apart fun _ => isSpace_of_mem_text
  rw [leadingNumber, whole, split, List.filterMap_append, List.filterMap_cons, read,
    List.filterMap_nil, List.getLast?_concat]
  rfl

end Chars

section

variable {blank : Char → Bool} {index : Nat} {before found after : List Char} {captures : Captures}

theorem exists_sign_of_reads
    (read : (oneOf "+-").opt.reads blank index before found after captures) :
    ∃ sign, found = Written.signText sign := by
  rcases times_opt.1 read with ⟨rfl, -⟩ | ⟨c, has, rfl, -⟩
  · exact ⟨none, rfl⟩
  · have either : c = '+' ∨ c = '-' := by
      simpa [CharSet.has, CharSet.ofText, CharSet.of, CharRange.has] using has
    rcases either with rfl | rfl
    · exact ⟨some false, rfl⟩
    · exact ⟨some true, rfl⟩

theorem ne_nil_of_length {cs : List Char} (filled : 1 ≤ cs.length) : cs ≠ [] := by
  rintro rfl
  cases filled

/-- At most two hundred digits before and after the point, and two in a power of ten. -/
def Written.IsShort (number : Written) : Prop :=
  number.whole.length ≤ 200 ∧ (number.fraction.getD []).length ≤ 200 ∧
    ∀ power ∈ number.power, power.digits.length ≤ 2

theorem exists_written_of_reads
    (read : plainDecimal.reads blank index before found after captures) :
    ∃ number : Written, number.power = none ∧ number.text = found ∧ number.IsShort := by
  obtain ⟨_, _, _, _, rfl, -, readSign, more, -, readDigits⟩ := read
  obtain ⟨sign, rfl⟩ := exists_sign_of_reads readSign
  rcases readDigits with ⟨whole, tail, _, _, rfl, -, readWhole, readFraction⟩ |
    ⟨_, digits, _, _, rfl, -, ⟨c, point, rfl, -⟩, readFraction⟩
  · obtain ⟨isWhole, filled, few⟩ := isDigits_of_reads readWhole
    have filled := ne_nil_of_length filled
    rcases times_opt.1 readFraction with ⟨rfl, -⟩ |
      ⟨_, -, _, digits, _, _, rfl, -, ⟨c, point, rfl, -⟩, readFraction⟩
    · refine ⟨⟨sign, whole, none, none, isWhole, rfl, .inl filled⟩, rfl, ?_,
        few, Nat.zero_le _, by rintro _ ⟨⟩⟩
      rw [Written.text_of_plain rfl]
      rfl
    · obtain ⟨isFraction, -, fewer⟩ := isDigits_of_reads readFraction
      refine ⟨⟨sign, whole, some digits, none, isWhole, isFraction, .inl filled⟩, rfl, ?_,
        few, fewer, by rintro _ ⟨⟩⟩
      rw [Written.text_of_plain rfl, eq_of_beq point]
      rfl
  · obtain ⟨isFraction, filled, few⟩ := isDigits_of_reads readFraction
    have filled := ne_nil_of_length filled
    refine ⟨⟨sign, [], some digits, none, rfl, isFraction, .inr filled⟩, rfl, ?_,
      Nat.zero_le _, few, by rintro _ ⟨⟩⟩
    rw [Written.text_of_plain rfl, eq_of_beq point]
    rfl

theorem exists_power_of_reads
    (read : (capture (oneOf "eE" ++ (oneOf "+-").opt ++ Regex.digit.between 1 2)).reads blank index
      before found after captures) :
    ∃ power : Power, found = Written.powerText (some power) ∧ power.digits.length ≤ 2 := by
  obtain ⟨_, -, _, digits, _, _, rfl, -, ⟨_, _, _, _, rfl, -, ⟨c, has, rfl, -⟩, readSign⟩,
    readDigits⟩ := read
  obtain ⟨sign, rfl⟩ := exists_sign_of_reads readSign
  obtain ⟨isDigits, filled, few⟩ := isDigits_of_reads readDigits
  have letter : c = 'e' ∨ c = 'E' := by
    simpa [CharSet.has, CharSet.ofText, CharSet.of, CharRange.has] using has
  exact ⟨⟨c, sign, digits, letter, isDigits, ne_nil_of_length filled⟩, List.append_assoc _ _ _, few⟩

end

theorem exists_written_of_plainNumber {blank : Char → Bool} {cs : List Char} {captures : Captures}
    (accepted : plainNumber.Matches blank cs captures) :
    ∃ number : Written, number.IsShort ∧ cs = number.text := by
  obtain ⟨_, _, _, rfl, _, _, _, _, rfl, -,
    ⟨_, _, _, _, rfl, -, ⟨rfl, rfl, -⟩, read⟩, rfl, rfl, -⟩ := accepted
  obtain ⟨number, -, text, short⟩ := exists_written_of_reads read
  exact ⟨number, short, by simp [text]⟩

theorem exists_written_of_numericText (accepted : numericText.Matches Chars.isSpace cs captures) :
    ∃ number : Written, number.IsShort ∧ Chars.strip Chars.isSpace cs = number.text := by
  obtain ⟨_, _, _, rfl, _, _, _, _, rfl, -,
    ⟨_, last, _, _, rfl, -,
      ⟨_, ending, _, _, rfl, -,
        ⟨_, _, _, _, rfl, -, ⟨_, first, _, _, rfl, -, ⟨rfl, rfl, -⟩, readFirst⟩, readNumber⟩,
        readPower⟩,
      readLast⟩, rfl, rfl, -⟩ := accepted
  obtain ⟨-, -, isFirst, -⟩ := times_one.1 readFirst
  obtain ⟨-, -, isLast, -⟩ := times_one.1 readLast
  obtain ⟨number, plain, rfl, short⟩ := exists_written_of_reads readNumber
  have whole : ∃ full : Written, full.IsShort ∧ full.text = number.text ++ ending := by
    rcases times_opt.1 readPower with ⟨rfl, -⟩ | readPower
    · exact ⟨number, short, (List.append_nil _).symm⟩
    · obtain ⟨power, rfl, few⟩ := exists_power_of_reads readPower
      refine ⟨{ number with power := some power }, ⟨short.1, short.2.1, ?_⟩, ?_⟩
      · rintro _ ⟨⟩
        exact few
      · rw [Written.text_of_plain plain, List.append_assoc]
        rfl
  obtain ⟨full, fullShort, text⟩ := whole
  have around : Chars.strip Chars.isSpace (first ++ full.text ++ last) = full.text :=
    Chars.strip_around isFirst (fun _ => Chars.isSpace_of_mem_text) isLast
  refine ⟨full, fullShort, ?_⟩
  rw [← around, text]
  simp

theorem read?_of_numericText (accepted : numericText.Matches Chars.isSpace cs captures) :
    ∃ decimal, Decimal.read? (Chars.strip Chars.isSpace cs) = some decimal := by
  obtain ⟨number, -, text⟩ := exists_written_of_numericText accepted
  exact ⟨number.decimal, by rw [text, number.read?_text]⟩

end SheetSql
