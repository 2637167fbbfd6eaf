import Mathlib.Data.List.Induction
import SheetSql.Format.Iso
import SheetSql.Proofs.Format.Ranges
import SheetSql.Proofs.Matching.Groups

namespace SheetSql.Format

/-! The parts of a text in the ISO form, by the groups that capture them. -/

open Regex

theorem natOf_lt_of_isDigits (digits : Decimal.isDigits cs = true) :
    Decimal.natOf cs < 10 ^ cs.length := by
  induction cs using List.reverseRecOn with
  | nil => simp [Decimal.natOf]
  | append_singleton cs c ih =>
    have all : Decimal.isDigits cs = true ∧ c.isDigit = true := by
      simpa [Decimal.isDigits] using digits
    have small := ih all.1
    have value : Decimal.natOf (cs ++ [c]) = 10 * Decimal.natOf cs + (c.toNat - 48) := by
      simp [Decimal.natOf]
    have bound : c.toNat ≤ 57 := by
      have := all.2
      simp only [Char.isDigit, Bool.and_eq_true, decide_eq_true_eq,
        UInt32.le_iff_toNat_le] at this
      exact this.2
    rw [value, List.length_append, List.length_singleton, pow_succ]
    omega

theorem isNumber_times {blank : Char → Bool} {n high index : Nat} {before found after : List Char}
    {captures : Captures} (filled : 0 < n) (bound : 10 ^ n ≤ high + 1)
    (read : (digit.times n).reads blank index before found after captures) :
    IsNumber 0 high found := by
  obtain ⟨digits, least, most⟩ := isDigits_of_reads read
  have length : found.length = n := Nat.le_antisymm most least
  have small := natOf_lt_of_isDigits digits
  rw [length] at small
  refine ⟨?_, digits, Nat.zero_le _, by omega⟩
  intro empty
  rw [empty] at length
  simp at length
  omega

def IsFraction (cs : List Char) : Prop :=
  ∃ digits, cs = '.' :: digits ∧ Decimal.isDigits digits = true ∧ 1 ≤ digits.length ∧
    digits.length ≤ 6

namespace IsoGroup

def all : List IsoGroup :=
  [.year, .month, .day, .hour, .minute, .second, .fraction, .zone, .offsetSign, .offsetHours,
   .offsetMinutes]

def pattern : IsoGroup → Regex
  | .year => digit.times 4
  | .month => twelve
  | .day => dayOfMonth
  | .hour => hourOfDay
  | .minute | .second => sixtyPadded
  | .fraction => char '.' ++ digits 1 6
  | .zone =>
    char 'Z' <|>
      capture (oneOf "+-") ++ capture (digit.times 2) ++ (char ':').opt ++
        (capture (digit.times 2)).opt
  | .offsetSign => oneOf "+-"
  | .offsetHours | .offsetMinutes => digit.times 2

def Accepts : IsoGroup → List Char → Prop
  | .year => IsNumber 0 9999
  | .month => IsNumber 1 12
  | .day => IsNumber 1 31
  | .hour => IsNumber 0 23
  | .minute | .second => IsNumber 0 59
  | .fraction => IsFraction
  | .zone | .offsetSign => fun _ => True
  | .offsetHours | .offsetMinutes => IsNumber 0 99

theorem index_inj {one other : IsoGroup} (same : one.index = other.index) : one = other := by
  cases one <;> cases other <;> first | rfl | cases same

theorem groupsFrom_isoRegex :
    isoRegex.groupsFrom 1 = all.map fun group => (group.index, group.pattern) := rfl

theorem certain_isoRegex :
    isoRegex.certain 1 = [IsoGroup.year.index, IsoGroup.month.index, IsoGroup.day.index] := rfl

theorem accepts_of_reads {blank : Char → Bool} {group : IsoGroup} {index : Nat}
    {before found after : List Char} {captures : Captures}
    (read : group.pattern.reads blank index before found after captures) :
    group.Accepts found := by
  cases group with
  | year => exact isNumber_times (by decide) (by decide) read
  | month => exact isNumber_twelve read
  | day => exact isNumber_dayOfMonth read
  | hour => exact isNumber_hourOfDay read
  | minute | second =>
    exact isNumber_seq (by decide) (by decide) (readsDigit_span 0 5 rfl rfl) readsDigit_digit
      read
  | fraction =>
    obtain ⟨_, tail, _, _, rfl, -, ⟨c, same, rfl, -⟩, rest⟩ := read
    obtain ⟨digits, least, most⟩ := isDigits_of_reads rest
    rw [eq_of_beq same]
    exact ⟨tail, rfl, digits, least, most⟩
  | zone | offsetSign => trivial
  | offsetHours | offsetMinutes => exact isNumber_times (by decide) (by decide) read

end IsoGroup

structure IsoParts (captures : Captures) : Prop where
  accepts : ∀ {group : IsoGroup} {cs : List Char},
    captures.at? group.index = some cs → group.Accepts cs
  certain : ∀ group ∈ [IsoGroup.year, .month, .day], (captures.at? group.index).isSome

theorem isoParts_of_matches {blank : Char → Bool} {cs : List Char} {captures : Captures}
    (found : isoRegex.Matches blank cs captures) : IsoParts captures := by
  obtain ⟨before, middle, after, -, read⟩ := found
  constructor
  · intro group cs captured
    have member := Captures.mem_of_at? captured
    obtain ⟨inner, known, _, _, _, read⟩ := capturedBy_of_reads isoRegex read _ member
    rw [IsoGroup.groupsFrom_isoRegex] at known
    obtain ⟨other, -, same⟩ := List.mem_map.1 known
    have number : other = group := IsoGroup.index_inj (congrArg Prod.fst same)
    have pattern : other.pattern = inner := congrArg Prod.snd same
    rw [← pattern, number] at read
    exact IsoGroup.accepts_of_reads read
  · intro group required
    have sure : group.index ∈ isoRegex.certain 1 := by
      rw [IsoGroup.certain_isoRegex]
      exact List.mem_map_of_mem required
    obtain ⟨text, member⟩ := exists_of_mem_certain isoRegex read sure
    exact Captures.isSome_at?_of_mem member

end SheetSql.Format
