import SheetSql.Number.Decimal

namespace SheetSql

/-! The parts of a written decimal number, and the number that is read from them. -/

/-- The power of ten at the end of a number: a letter, perhaps a sign, and digits. -/
structure Power where
  letter : Char
  sign : Option Bool
  digits : List Char
  isLetter : letter = 'e' ∨ letter = 'E'
  isDigits : Decimal.isDigits digits = true
  filled : digits ≠ []

def Power.value (power : Power) : Int :=
  if power.sign = some true then -(Decimal.natOf power.digits) else Decimal.natOf power.digits

/-- A number as it is written. A sign is given by whether it is a minus. -/
structure Written where
  sign : Option Bool
  whole : List Char
  /-- The digits after the point, if there is a point. -/
  fraction : Option (List Char)
  power : Option Power
  isWhole : Decimal.isDigits whole = true
  isFraction : Decimal.isDigits (fraction.getD []) = true
  filled : whole ≠ [] ∨ fraction.getD [] ≠ []

namespace Written

def signText : Option Bool → List Char
  | none => []
  | some true => ['-']
  | some false => ['+']

def fractionText : Option (List Char) → List Char
  | none => []
  | some digits => '.' :: digits

def powerText : Option Power → List Char
  | none => []
  | some power => power.letter :: (signText power.sign ++ power.digits)

def mantissa (number : Written) : List Char :=
  number.whole ++ fractionText number.fraction

def text (number : Written) : List Char :=
  signText number.sign ++ (number.mantissa ++ powerText number.power)

def exponent : Option Power → Int
  | none => 0
  | some power => power.value

def decimal (number : Written) : Decimal where
  negative := number.sign == some true
  digits := Decimal.natOf (number.whole ++ number.fraction.getD [])
  exponent := exponent number.power - (number.fraction.getD []).length

theorem isDigit_of_isDigits (digits : Decimal.isDigits cs = true) (member : c ∈ cs) :
    c.isDigit = true :=
  List.all_eq_true.1 digits c member

theorem isDigit_apart {c : Char} (digit : c.isDigit = true) : c ≠ '-' ∧ c ≠ '+' ∧ c ≠ '.' := by
  refine ⟨?_, ?_, ?_⟩ <;> intro same <;> subst same <;> exact absurd digit (by decide)

theorem readSign_signText (sign : Option Bool) (rest : List Char) (plain : c ≠ '-' ∧ c ≠ '+') :
    Decimal.readSign (signText sign ++ c :: rest) = (sign == some true, c :: rest) := by
  cases sign with
  | none =>
    unfold Decimal.readSign
    split
    · next split =>
        cases split
        exact absurd rfl plain.1
    · next split =>
        cases split
        exact absurd rfl plain.2
    · rfl
  | some negative =>
    cases negative with
    | false => rfl
    | true => rfl

theorem readExponent?_powerText (power : Option Power) :
    Decimal.readExponent? (powerText power) = some (exponent power) := by
  cases power with
  | none => rfl
  | some power =>
    obtain ⟨letter, sign, digits, isLetter, isDigits, filled⟩ := power
    obtain ⟨c, rest, rfl⟩ := List.exists_cons_of_ne_nil filled
    have plain := isDigit_apart (isDigit_of_isDigits isDigits List.mem_cons_self)
    rw [powerText, Decimal.readExponent?, if_pos isLetter,
      readSign_signText sign rest ⟨plain.1, plain.2.1⟩]
    dsimp only
    rw [isDigits]
    cases sign with
    | none => rfl
    | some negative => cases negative <;> rfl

theorem mantissa_cons (number : Written) :
    ∃ c rest, number.mantissa = c :: rest ∧ c ≠ '-' ∧ c ≠ '+' := by
  obtain ⟨sign, whole, fraction, power, isWhole, isFraction, filled⟩ := number
  unfold mantissa
  cases whole with
  | cons c rest =>
    have plain := isDigit_apart (isDigit_of_isDigits isWhole List.mem_cons_self)
    exact ⟨c, rest ++ fractionText fraction, rfl, plain.1, plain.2.1⟩
  | nil =>
    cases fraction with
    | none => simp at filled
    | some digits => exact ⟨'.', digits, rfl, by decide, by decide⟩

section

variable (number : Written)

theorem isMantissa_of_mem (member : c ∈ number.mantissa) : (c.isDigit || c == '.') = true := by
  rcases List.mem_append.1 member with digit | rest
  · rw [isDigit_of_isDigits number.isWhole digit]
    rfl
  · cases point : number.fraction with
    | none =>
      rw [point] at rest
      cases rest
    | some digits =>
      have all := number.isFraction
      rw [point] at rest all
      rcases List.mem_cons.1 rest with rfl | digit
      · rfl
      · rw [isDigit_of_isDigits all digit]
        rfl

theorem takeWhile_powerText (power : Option Power) :
    (powerText power).takeWhile (fun c => c.isDigit || c == '.') = [] := by
  cases power with
  | none => rfl
  | some power =>
    rcases power.isLetter with same | same <;>
      · rw [powerText, same]
        rfl

theorem dropWhile_powerText (power : Option Power) :
    (powerText power).dropWhile (fun c => c.isDigit || c == '.') = powerText power := by
  cases power with
  | none => rfl
  | some power =>
    rcases power.isLetter with same | same <;>
      · rw [powerText, same]
        rfl

theorem takeWhile_mantissa : number.mantissa.takeWhile Char.isDigit = number.whole := by
  have digits : ∀ c ∈ number.whole, c.isDigit = true :=
    fun _ member => isDigit_of_isDigits number.isWhole member
  rw [mantissa, List.takeWhile_append_of_pos digits]
  cases number.fraction with
  | none => exact List.append_nil _
  | some digits => exact List.append_nil _

theorem dropWhile_mantissa :
    (number.mantissa.dropWhile Char.isDigit).drop 1 = number.fraction.getD [] := by
  have digits : ∀ c ∈ number.whole, c.isDigit = true :=
    fun _ member => isDigit_of_isDigits number.isWhole member
  rw [mantissa, List.dropWhile_append_of_pos digits]
  cases number.fraction with
  | none => rfl
  | some digits => rfl

theorem read?_text : Decimal.read? number.text = some number.decimal := by
  obtain ⟨c, rest, starts, plain⟩ := number.mantissa_cons
  have sign : Decimal.readSign number.text =
      (number.sign == some true, number.mantissa ++ powerText number.power) := by
    rw [text, starts]
    exact readSign_signText _ _ plain
  have some : (number.whole.isEmpty && (number.fraction.getD []).isEmpty) = false := by
    rcases number.filled with digit | digit
    · rw [List.isEmpty_eq_false_iff.2 digit, Bool.false_and]
    · rw [List.isEmpty_eq_false_iff.2 digit, Bool.and_false]
  unfold Decimal.read?
  rw [sign]
  dsimp only
  rw [List.takeWhile_append_of_pos fun c => number.isMantissa_of_mem,
    List.dropWhile_append_of_pos fun c => number.isMantissa_of_mem, takeWhile_powerText,
    dropWhile_powerText, List.append_nil, takeWhile_mantissa, dropWhile_mantissa, some,
    number.isFraction, readExponent?_powerText]
  rfl

end

theorem exists_signText (cs : List Char) :
    ∃ sign, cs = signText sign ++ (Decimal.readSign cs).2 := by
  unfold Decimal.readSign
  split
  · exact ⟨some true, rfl⟩
  · exact ⟨some false, rfl⟩
  · exact ⟨none, rfl⟩

theorem exists_powerText (read : Decimal.readExponent? cs = some value) :
    ∃ power, cs = powerText power := by
  cases cs with
  | nil => exact ⟨none, rfl⟩
  | cons letter rest =>
    rw [Decimal.readExponent?] at read
    split at read
    · next isLetter =>
        obtain ⟨sign, split⟩ := exists_signText rest
        dsimp only at read
        split at read
        · cases read
        · next good =>
            simp only [Bool.or_eq_true, List.isEmpty_iff, Bool.not_eq_true', not_or,
              Bool.not_eq_false] at good
            exact ⟨some ⟨letter, sign, _, isLetter, good.2, good.1⟩, congrArg _ split⟩
    · cases read

theorem exists_fractionText {cs : List Char} (mantissa : ∀ c ∈ cs, (c.isDigit || c == '.') = true) :
    ∃ fraction : Option (List Char), cs.dropWhile Char.isDigit = fractionText fraction ∧
      fraction.getD [] = (cs.dropWhile Char.isDigit).drop 1 := by
  cases tail : cs.dropWhile Char.isDigit with
  | nil => exact ⟨none, rfl, rfl⟩
  | cons c rest =>
    have other : c.isDigit = false := by
      have head := List.head?_dropWhile_not Char.isDigit cs
      rw [tail] at head
      exact head
    have member : c ∈ cs := (List.dropWhile_sublist _).subset (tail ▸ List.mem_cons_self)
    have point : c = '.' := by
      have either := mantissa c member
      rw [other, Bool.false_or] at either
      exact eq_of_beq either
    exact ⟨some rest, by rw [point]; rfl, rfl⟩

theorem exists_of_read? {cs : List Char} {decimal : Decimal}
    (read : Decimal.read? cs = some decimal) : ∃ number : Written, number.text = cs := by
  obtain ⟨sign, split⟩ := exists_signText cs
  unfold Decimal.read? at read
  dsimp only at read
  generalize (Decimal.readSign cs).2 = body at split read
  generalize isMantissa : (fun c : Char => c.isDigit || c == '.') = p at read
  split at read
  · cases read
  · next good =>
      obtain ⟨value, readPower, -⟩ := Option.map_eq_some_iff.1 read
      obtain ⟨power, rest⟩ := exists_powerText readPower
      have mantissa : ∀ c ∈ body.takeWhile p, (c.isDigit || c == '.') = true := by
        intro c member
        have accepted := List.all_eq_true.1 (List.all_takeWhile (p := p) (l := body)) c member
        rw [← isMantissa] at accepted
        exact accepted
      obtain ⟨fraction, tail, digits⟩ := exists_fractionText mantissa
      rw [← digits] at good
      simp only [Bool.or_eq_true, Bool.and_eq_true, List.isEmpty_iff, Bool.not_eq_true', not_or,
        Decidable.not_and_iff_not_or_not, Bool.not_eq_false] at good
      refine ⟨⟨sign, (body.takeWhile p).takeWhile Char.isDigit, fraction, power,
        List.all_takeWhile, good.2, good.1⟩, ?_⟩
      rw [text, Written.mantissa]
      dsimp only
      rw [← tail, ← rest, List.takeWhile_append_dropWhile, List.takeWhile_append_dropWhile]
      exact split.symm

end Written

end SheetSql
