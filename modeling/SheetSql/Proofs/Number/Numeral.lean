import SheetSql.Proofs.Number.Plain
import SheetSql.Sql.Literal

namespace SheetSql

/-! The grammar of numbers in SQL text. -/

open Text Sql

def IsSign (cs : List Char) : Prop :=
  cs = [] ∨ cs = ['-'] ∨ cs = ['+']

/-- Nothing, or a letter, perhaps a sign, and digits. -/
def IsPower (cs : List Char) : Prop :=
  cs = [] ∨ ∃ letter sign digits, cs = letter :: (sign ++ digits) ∧
    (letter = 'e' ∨ letter = 'E') ∧ IsSign sign ∧ digits ≠ [] ∧ ∀ c ∈ digits, c.isDigit = true

def IsNumeral (cs : List Char) : Prop :=
  ∃ sign mantissa power, cs = sign ++ (mantissa ++ power) ∧
    IsSign sign ∧ IsMantissa mantissa ∧ IsPower power

theorem isSign_iff : IsSign cs ↔ ∃ sign, cs = Written.signText sign := by
  constructor
  · rintro (rfl | rfl | rfl)
    · exact ⟨none, rfl⟩
    · exact ⟨some true, rfl⟩
    · exact ⟨some false, rfl⟩
  · rintro ⟨sign, rfl⟩
    cases sign with
    | none => exact .inl rfl
    | some negative =>
      cases negative with
      | false => exact .inr (.inr rfl)
      | true => exact .inr (.inl rfl)

theorem isPower_iff : IsPower cs ↔ ∃ power, cs = Written.powerText power := by
  constructor
  · rintro (rfl | ⟨letter, sign, digits, rfl, isLetter, isSign, filled, all⟩)
    · exact ⟨none, rfl⟩
    · obtain ⟨sign, rfl⟩ := isSign_iff.1 isSign
      exact ⟨some ⟨letter, sign, digits, isLetter, List.all_eq_true.2 all, filled⟩, rfl⟩
  · rintro ⟨power, rfl⟩
    cases power with
    | none => exact .inl rfl
    | some power =>
      exact .inr ⟨power.letter, _, power.digits, rfl, power.isLetter, isSign_iff.2 ⟨_, rfl⟩,
        power.filled, List.all_eq_true.1 power.isDigits⟩

theorem isNumeral_iff : IsNumeral cs ↔ ∃ number : Written, cs = number.text := by
  constructor
  · rintro ⟨sign, mantissa, power, rfl, isSign, isMantissa, isPower⟩
    obtain ⟨sign, rfl⟩ := isSign_iff.1 isSign
    obtain ⟨power, rfl⟩ := isPower_iff.1 isPower
    obtain ⟨whole, fraction, rfl, isWhole, isFraction, filled⟩ := isMantissa.exists_parts
    exact ⟨⟨sign, whole, fraction, power, isWhole, isFraction, filled⟩, rfl⟩
  · rintro ⟨number, rfl⟩
    exact ⟨_, _, _, rfl, isSign_iff.2 ⟨_, rfl⟩, number.isMantissa, isPower_iff.2 ⟨_, rfl⟩⟩

/--
A text is a number exactly if, with the brackets around it left out, it is a numeral, and the
number is then the one that the parts of the numeral give.
-/
theorem numberLiteral?_iff_isNumeral (sql : String) :
    ((numberLiteral? sql).isSome = true ↔ IsNumeral (bare sql.toList)) ∧
    ∀ decimal, numberLiteral? sql = some decimal ↔
      ∃ number : Written, bare sql.toList = number.text ∧ decimal = number.decimal := by
  have value : ∀ decimal, numberLiteral? sql = some decimal ↔
      ∃ number : Written, bare sql.toList = number.text ∧ decimal = number.decimal := by
    intro decimal
    rw [numberLiteral?]
    constructor
    · intro read
      obtain ⟨number, text⟩ := Written.exists_of_read? read
      rw [← text, number.read?_text] at read
      exact ⟨number, text.symm, (Option.some.inj read).symm⟩
    · rintro ⟨number, text, rfl⟩
      rw [text, number.read?_text]
  refine ⟨?_, value⟩
  rw [isNumeral_iff, Option.isSome_iff_exists]
  constructor
  · rintro ⟨decimal, read⟩
    obtain ⟨number, text, -⟩ := (value decimal).1 read
    exact ⟨number, text⟩
  · rintro ⟨number, text⟩
    exact ⟨number.decimal, (value _).2 ⟨number, text, rfl⟩⟩

end SheetSql
