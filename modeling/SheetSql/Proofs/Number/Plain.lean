import SheetSql.Proofs.Number.Written

namespace SheetSql

/-! Numbers without a power of ten, told by their characters alone. -/

def isNumeric (c : Char) : Bool :=
  c.isDigit || c == '.' || c == '-' || c == '+'

/-- At least one digit, at most one point, and a sign only at the start. -/
structure IsPlain (cs : List Char) : Prop where
  numeric : ∀ c ∈ cs, isNumeric c = true
  digit : ∃ c ∈ cs, c.isDigit = true
  sign : ∀ c ∈ cs.drop 1, c ≠ '-' ∧ c ≠ '+'
  point : ∀ before after, cs = before ++ '.' :: after → '.' ∉ after

/-- At least one digit and at most one point, and nothing else. -/
structure IsMantissa (cs : List Char) : Prop where
  chars : ∀ c ∈ cs, (c.isDigit || c == '.') = true
  digit : ∃ c ∈ cs, c.isDigit = true
  point : ∀ before after, cs = before ++ '.' :: after → '.' ∉ after

theorem point_of_count {cs : List Char} (count : cs.count '.' ≤ 1) :
    ∀ before after, cs = before ++ '.' :: after → '.' ∉ after := by
  intro before after split member
  rw [split, List.count_append, List.count_cons_self] at count
  have second := List.count_pos_iff.2 member
  omega

namespace Written

variable {number : Written}

theorem power_of_isNumeric (numeric : ∀ c ∈ number.text, isNumeric c = true) :
    number.power = none := by
  cases isPower : number.power with
  | none => rfl
  | some power =>
    have member : power.letter ∈ number.text := by
      rw [text, isPower]
      apply List.mem_append_right
      apply List.mem_append_right
      exact List.mem_cons_self
    have letter := numeric _ member
    rcases power.isLetter with same | same
    · rw [same] at letter
      exact absurd letter (by decide)
    · rw [same] at letter
      exact absurd letter (by decide)

theorem text_of_plain (plain : number.power = none) :
    number.text = signText number.sign ++ number.mantissa := by
  rw [text, plain, powerText, List.append_nil]

theorem isNumeric_of_mem_text (plain : number.power = none) (member : c ∈ number.text) :
    isNumeric c = true := by
  rw [text_of_plain plain] at member
  rcases List.mem_append.1 member with sign | digit
  · cases signed : number.sign with
    | none =>
      rw [signed] at sign
      cases sign
    | some negative =>
      rw [signed] at sign
      cases negative <;>
        · rw [List.mem_singleton.1 sign]
          rfl
  · rw [isNumeric, number.isMantissa_of_mem digit]
    rfl

theorem mem_mantissa_of_mem_drop (plain : number.power = none) (member : c ∈ number.text.drop 1) :
    c ∈ number.mantissa := by
  rw [text_of_plain plain] at member
  cases signed : number.sign with
  | none =>
    rw [signed] at member
    exact List.mem_of_mem_drop member
  | some negative =>
    rw [signed] at member
    cases negative <;> exact member

theorem count_mantissa (number : Written) : number.mantissa.count '.' ≤ 1 := by
  have none : ∀ {digits}, Decimal.isDigits digits = true → digits.count '.' = 0 := by
    intro digits all
    apply List.count_eq_zero.2
    intro member
    exact absurd (isDigit_of_isDigits all member) (by decide)
  have fraction : (fractionText number.fraction).count '.' ≤ 1 := by
    have all := none number.isFraction
    cases isFraction : number.fraction with
    | none => exact Nat.zero_le 1
    | some digits =>
      rw [isFraction] at all
      rw [fractionText, List.count_cons_self]
      exact Nat.le_of_eq (congrArg Nat.succ all)
  rw [mantissa, List.count_append, none number.isWhole]
  omega

theorem count_text (plain : number.power = none) : number.text.count '.' ≤ 1 := by
  have sign : (signText number.sign).count '.' = 0 := by
    cases number.sign with
    | none => rfl
    | some negative => cases negative <;> rfl
  have mantissa := number.count_mantissa
  rw [text_of_plain plain, List.count_append, sign]
  omega

theorem exists_digit (number : Written) : ∃ c ∈ number.mantissa, c.isDigit = true := by
  rcases number.filled with filled | filled
  · obtain ⟨c, member⟩ := List.exists_mem_of_ne_nil _ filled
    exact ⟨c, List.mem_append_left _ member, isDigit_of_isDigits number.isWhole member⟩
  · obtain ⟨c, member⟩ := List.exists_mem_of_ne_nil _ filled
    refine ⟨c, List.mem_append_right _ ?_, isDigit_of_isDigits number.isFraction member⟩
    cases isFraction : number.fraction with
    | none =>
      rw [isFraction] at member
      cases member
    | some digits =>
      rw [isFraction] at member
      exact List.mem_cons_of_mem _ member

theorem isMantissa (number : Written) : IsMantissa number.mantissa where
  chars := fun _ => number.isMantissa_of_mem
  digit := number.exists_digit
  point := point_of_count number.count_mantissa

theorem isPlain_text (plain : number.power = none) : IsPlain number.text where
  numeric := fun _ => isNumeric_of_mem_text plain
  digit := by
    obtain ⟨c, member, digit⟩ := number.exists_digit
    rw [text_of_plain plain]
    exact ⟨c, List.mem_append_right _ member, digit⟩
  sign := by
    intro c member
    have mantissa := number.isMantissa_of_mem (mem_mantissa_of_mem_drop plain member)
    constructor
    · rintro rfl
      exact absurd mantissa (by decide)
    · rintro rfl
      exact absurd mantissa (by decide)
  point := point_of_count (count_text plain)

end Written

theorem IsMantissa.exists_parts (mantissa : IsMantissa cs) :
    ∃ (whole : List Char) (fraction : Option (List Char)),
      cs = whole ++ Written.fractionText fraction ∧ Decimal.isDigits whole = true ∧
        Decimal.isDigits (fraction.getD []) = true ∧ (whole ≠ [] ∨ fraction.getD [] ≠ []) := by
  obtain ⟨fraction, tail, -⟩ := Written.exists_fractionText mantissa.chars
  have split : cs = cs.takeWhile Char.isDigit ++ Written.fractionText fraction := by
    rw [← tail, List.takeWhile_append_dropWhile]
  refine ⟨_, fraction, split, List.all_takeWhile, ?_, ?_⟩
  · cases fraction with
    | none => rfl
    | some rest =>
      apply List.all_eq_true.2
      intro c member
      have either := mantissa.chars c (by
        rw [split]
        exact List.mem_append_right _ (List.mem_cons_of_mem _ member))
      have other : c ≠ '.' := by
        rintro rfl
        exact mantissa.point _ rest split member
      rw [beq_false_of_ne other, Bool.or_false] at either
      exact either
  · obtain ⟨c, member, digit⟩ := mantissa.digit
    rw [split] at member
    rcases List.mem_append.1 member with first | second
    · exact .inl (List.ne_nil_of_mem first)
    · cases fraction with
      | none => cases second
      | some rest =>
        rcases List.mem_cons.1 second with rfl | second
        · exact absurd digit (by decide)
        · exact .inr (List.ne_nil_of_mem second)

theorem IsPlain.exists_sign (plain : IsPlain cs) :
    ∃ sign body, cs = Written.signText sign ++ body ∧ IsMantissa body := by
  have mantissa : ∀ c ∈ cs, c ≠ '-' ∧ c ≠ '+' → (c.isDigit || c == '.') = true := by
    intro c member unsigned
    have numeric := plain.numeric c member
    rw [isNumeric, beq_false_of_ne unsigned.1, beq_false_of_ne unsigned.2, Bool.or_false,
      Bool.or_false] at numeric
    exact numeric
  cases cs with
  | nil =>
    obtain ⟨c, member, -⟩ := plain.digit
    cases member
  | cons c rest =>
    have later : ∀ x ∈ rest, (x.isDigit || x == '.') = true := fun x member =>
      mantissa x (List.mem_cons_of_mem _ member) (plain.sign x member)
    by_cases signed : c = '-' ∨ c = '+'
    · refine ⟨some (c == '-'), rest, by rcases signed with rfl | rfl <;> rfl, later, ?_, ?_⟩
      · obtain ⟨d, member, digit⟩ := plain.digit
        rcases List.mem_cons.1 member with rfl | member
        · rcases signed with rfl | rfl <;> exact absurd digit (by decide)
        · exact ⟨d, member, digit⟩
      · intro before after split
        exact plain.point (c :: before) after (congrArg _ split)
    · refine ⟨none, c :: rest, rfl, ?_, plain.digit, plain.point⟩
      intro x member
      rcases List.mem_cons.1 member with rfl | member
      · exact mantissa x List.mem_cons_self (not_or.1 signed)
      · exact later x member

theorem IsPlain.exists_written (plain : IsPlain cs) :
    ∃ number : Written, number.power = none ∧ number.text = cs := by
  obtain ⟨sign, body, rfl, mantissa⟩ := plain.exists_sign
  obtain ⟨whole, fraction, rfl, isWhole, isFraction, filled⟩ := mantissa.exists_parts
  refine ⟨⟨sign, whole, fraction, none, isWhole, isFraction, filled⟩, rfl, ?_⟩
  rw [Written.text_of_plain rfl, Written.mantissa]

/-- A text of numeric characters is read as a number exactly if it is plain. -/
theorem isPlain_iff_read? (numeric : ∀ c ∈ cs, isNumeric c = true) :
    IsPlain cs ↔ ∃ decimal, Decimal.read? cs = some decimal := by
  constructor
  · intro plain
    obtain ⟨number, -, rfl⟩ := plain.exists_written
    exact ⟨_, number.read?_text⟩
  · rintro ⟨decimal, read⟩
    obtain ⟨number, rfl⟩ := Written.exists_of_read? read
    exact Written.isPlain_text (Written.power_of_isNumeric numeric)

end SheetSql
