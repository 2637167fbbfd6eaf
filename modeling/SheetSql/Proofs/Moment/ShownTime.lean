import Mathlib.Data.List.TakeWhile
import SheetSql.Proofs.Moment.DayNumber
import SheetSql.Proofs.Query.Database

namespace SheetSql

/-! Times as texts of fixed width. -/

namespace Chars

def before : List Char → List Char → Bool
  | _, [] => false
  | [], _ :: _ => true
  | c :: cs, d :: ds => decide (c.toNat < d.toNat) || (c == d && before cs ds)

theorem before_append {a b : List Char} (length : a.length = b.length) (c d : List Char) :
    before (a ++ c) (b ++ d) = (before a b || (a == b && before c d)) := by
  induction a generalizing b with
  | nil =>
    obtain rfl := List.length_eq_zero_iff.1 length.symm
    simp [before]
  | cons x a ih =>
    cases b with
    | nil => cases length
    | cons y b =>
      have same : a.length = b.length := Nat.succ.inj length
      simp only [List.cons_append, before, ih same, List.cons_beq_cons]
      cases decide (x.toNat < y.toNat) <;> cases x == y <;> simp

def digits : (width n : Nat) → List Char
  | 0, _ => []
  | width + 1, n => digits width (n / 10) ++ [Nat.digitChar (n % 10)]

theorem length_digits (width n : Nat) : (digits width n).length = width := by
  induction width generalizing n with
  | zero => rfl
  | succ width ih => rw [digits, List.length_append, ih, List.length_singleton]

theorem isDigits_digits (width n : Nat) : Decimal.isDigits (digits width n) = true := by
  induction width generalizing n with
  | zero => rfl
  | succ width ih =>
    have last : (Nat.digitChar (n % 10)).isDigit = true := by
      rw [Nat.isDigit_digitChar]
      exact decide_eq_true (Nat.mod_lt n (by decide))
    simpa [digits, Decimal.isDigits, last] using ih (n / 10)

theorem natOf_digits (fits : n < 10 ^ width) : Decimal.natOf (digits width n) = n := by
  induction width generalizing n with
  | zero =>
    have zero : n = 0 := by simpa using fits
    rw [zero]
    rfl
  | succ width ih =>
    have rest : n / 10 < 10 ^ width := by
      rw [pow_succ] at fits
      omega
    have value : Decimal.natOf (digits width (n / 10) ++ [Nat.digitChar (n % 10)]) =
        10 * Decimal.natOf (digits width (n / 10)) + ((Nat.digitChar (n % 10)).toNat - 48) := by
      simp [Decimal.natOf]
    rw [digits, value, ih rest, Nat.toNat_digitChar_of_lt_ten (Nat.mod_lt n (by decide))]
    omega

theorem digits_beq (first : m < 10 ^ width) (second : n < 10 ^ width) :
    (digits width m == digits width n) = decide (m = n) := by
  rw [Bool.eq_iff_iff, beq_iff_eq, decide_eq_true_iff]
  refine ⟨fun same => ?_, congrArg (digits width)⟩
  rw [← natOf_digits first, same, natOf_digits second]

theorem before_digits (first : m < 10 ^ width) (second : n < 10 ^ width) :
    before (digits width m) (digits width n) = decide (m < n) := by
  induction width generalizing m n with
  | zero =>
    simp only [pow_zero, Nat.lt_one_iff] at first second
    rw [first, second]
    rfl
  | succ width ih =>
    rw [pow_succ] at first second
    have high : m / 10 < 10 ^ width := by omega
    have high' : n / 10 < 10 ^ width := by omega
    have lengths : (digits width (m / 10)).length = (digits width (n / 10)).length := by
      rw [length_digits, length_digits]
    rw [digits, digits, before_append lengths, ih high high', digits_beq high high']
    simp only [before, Nat.toNat_digitChar_of_lt_ten (Nat.mod_lt _ (show 0 < 10 by decide))]
    rw [Bool.eq_iff_iff]
    simp only [Bool.or_eq_true, Bool.and_eq_true, decide_eq_true_iff, Bool.and_false,
      Bool.or_false]
    omega

theorem before_digits_append (first : m < 10 ^ width) (second : n < 10 ^ width) (c d : List Char) :
    before (digits width m ++ c) (digits width n ++ d) =
      (decide (m < n) || (decide (m = n) && before c d)) := by
  have lengths : (digits width m).length = (digits width n).length := by
    rw [length_digits, length_digits]
  rw [before_append lengths, before_digits first second, digits_beq first second]

theorem before_cons (c : Char) (a b : List Char) : before (c :: a) (c :: b) = before a b := by
  simp [before]

theorem leadingInteger_of_isDigits (isDigits : Decimal.isDigits cs = true) :
    leadingInteger cs = Decimal.natOf cs := by
  cases cs with
  | nil => rfl
  | cons c rest =>
    obtain ⟨number, text, -⟩ := exists_written_of_isDigits isDigits (List.cons_ne_nil c rest)
    have apart : ∀ d ∈ c :: rest, isSpace d = false := by
      rw [← text]
      exact fun d member => isSpace_of_mem_text member
    have plain := Written.isDigit_apart (Written.isDigit_of_isDigits isDigits List.mem_cons_self)
    have sign : Decimal.readSign (c :: rest) = (false, c :: rest) :=
      Written.readSign_signText none rest ⟨plain.1, plain.2.1⟩
    have all : (c :: rest).takeWhile Char.isDigit = c :: rest :=
      List.takeWhile_eq_self_iff.2 (List.all_eq_true.1 isDigits)
    rw [leadingInteger, dropWhile_of_apart apart, sign]
    dsimp only
    rw [all, if_neg (by decide)]

end Chars

namespace Stamp

structure IsTime (stamp : Stamp) : Prop where
  isReal : stamp.date.IsReal
  seconds_nonneg : 0 ≤ stamp.seconds
  seconds_lt : stamp.seconds < 86400

/-- A time that SQLite has a text for: to the millisecond, and in the years of four digits. -/
structure IsShown (stamp : Stamp) : Prop extends stamp.IsTime where
  year_nonneg : 0 ≤ stamp.date.year
  year_le : stamp.date.year ≤ 9999
  whole : ∃ n : Nat, stamp.seconds = n / 1000

def millis (stamp : Stamp) : Nat := ⌊stamp.seconds * 1000⌋.toNat

theorem seconds_eq {stamp : Stamp} (shown : stamp.IsShown) :
    stamp.seconds = stamp.millis / 1000 := by
  obtain ⟨n, whole⟩ := shown.whole
  have scaled : stamp.seconds * 1000 = n := by
    rw [whole]
    ring
  rw [millis, scaled, whole]
  simp

theorem millis_lt {stamp : Stamp} (shown : stamp.IsShown) : stamp.millis < 86400000 := by
  have bound := shown.seconds_lt
  rw [seconds_eq shown, div_lt_iff₀ (by norm_num)] at bound
  exact_mod_cast (by linarith : (stamp.millis : ℚ) < 86400000)

def part? (stamp : Stamp) (c : Char) : Option (List Char) :=
  let seconds := Chars.digits 2 (stamp.millis / 1000 % 60)
  match c with
  | 'Y' => some (Chars.digits 4 stamp.date.year.toNat)
  | 'm' => some (Chars.digits 2 stamp.date.month)
  | 'd' => some (Chars.digits 2 stamp.date.day)
  | 'H' => some (Chars.digits 2 (stamp.millis / 3600000))
  | 'M' => some (Chars.digits 2 (stamp.millis / 60000 % 60))
  | 'S' => some seconds
  | 'f' => some (seconds ++ '.' :: Chars.digits 3 (stamp.millis % 1000))
  -- Here a week begins with its Sunday as zero.
  | 'w' => some (Chars.digits 1 (stamp.date.weekday % 7).toNat)
  | _ => none

def shown? (stamp : Stamp) : (format : List Char) → Option (List Char)
  | [] => some []
  | '%' :: c :: rest => do return (← stamp.part? c) ++ (← stamp.shown? rest)
  | c :: rest => do return c :: (← stamp.shown? rest)

end Stamp

theorem Value.castWhole_digits (fits : n < 10 ^ width) (small : n ≤ 9999) :
    (Value.text (Chars.digits width n)).castWhole = .int n := by
  have integer := Chars.leadingInteger_of_isDigits (Chars.isDigits_digits width n)
  rw [Chars.natOf_digits fits] at integer
  rw [castWhole, integer, ofBounded]
  congr 1
  omega

structure Date.IsShown (date : Date) : Prop extends date.IsReal where
  year_nonneg : 0 ≤ date.year
  year_le : date.year ≤ 9999

theorem Date.day_le_31 {date : Date} (real : date.IsReal) : date.day ≤ 31 := by
  refine real.day_le.trans ?_
  unfold daysInMonth
  split
  · split <;> decide
  · split <;> decide

def Date.isoText (date : Date) : List Char :=
  Chars.digits 4 date.year.toNat ++ '-' ::
    (Chars.digits 2 date.month ++ '-' :: Chars.digits 2 date.day)

theorem Date.before_isoText {a b : Date} (first : a.IsShown) (second : b.IsShown) :
    Chars.before a.isoText b.isoText = decide (a.dayNumber < b.dayNumber) := by
  have month : ∀ {date : Date}, date.IsShown → date.month < 10 ^ 2 := fun shown =>
    lt_of_le_of_lt shown.month_le (by decide)
  have day : ∀ {date : Date}, date.IsShown → date.day < 10 ^ 2 := fun shown =>
    lt_of_le_of_lt (day_le_31 shown.toIsReal) (by decide)
  have year : ∀ {date : Date}, date.IsShown → date.year.toNat < 10 ^ 4 := fun shown => by
    have := shown.year_le
    omega
  rw [isoText, isoText, Chars.before_digits_append (year first) (year second), Chars.before_cons,
    Chars.before_digits_append (month first) (month second), Chars.before_cons,
    Chars.before_digits (day first) (day second), Bool.eq_iff_iff]
  simp only [Bool.or_eq_true, Bool.and_eq_true, decide_eq_true_iff]
  rw [dayNumber_lt_iff first.toIsReal second.toIsReal, Before]
  have := first.year_nonneg
  have := second.year_nonneg
  omega

instance (date : Date) : Decidable date.IsShown :=
  decidable_of_iff (date.IsReal ∧ 0 ≤ date.year ∧ date.year ≤ 9999)
    ⟨fun ⟨real, nonneg, le⟩ => ⟨real, nonneg, le⟩, fun shown => ⟨shown.toIsReal, shown.2, shown.3⟩⟩

def Date.ofIso? (cs : List Char) : Option Date :=
  let date : Date :=
    ⟨Decimal.natOf (cs.take 4), Decimal.natOf ((cs.drop 5).take 2), Decimal.natOf (cs.drop 8)⟩
  if date.IsShown ∧ date.isoText = cs then some date else none

theorem Date.isShown_of_ofIso? (read : ofIso? cs = some date) : date.IsShown := by
  simp only [ofIso?, Option.ite_none_right_eq_some, Option.some.injEq] at read
  obtain ⟨⟨shown, -⟩, rfl⟩ := read
  exact shown

theorem Date.ofIso?_isoText {date : Date} (shown : date.IsShown) :
    ofIso? date.isoText = some date := by
  have small := shown.year_le
  have month : date.month < 10 ^ 2 := lt_of_le_of_lt shown.month_le (by decide)
  have day : date.day < 10 ^ 2 := lt_of_le_of_lt (day_le_31 shown.toIsReal) (by decide)
  have year : date.year.toNat < 10 ^ 4 := by omega
  have first : date.isoText.take 4 = Chars.digits 4 date.year.toNat :=
    List.take_left' (Chars.length_digits _ _)
  have rest : date.isoText.drop 4 =
      '-' :: (Chars.digits 2 date.month ++ '-' :: Chars.digits 2 date.day) :=
    List.drop_left' (Chars.length_digits _ _)
  have second : (date.isoText.drop 5).take 2 = Chars.digits 2 date.month := by
    rw [← List.drop_drop (i := 1) (j := 4), rest]
    exact List.take_left' (Chars.length_digits _ _)
  have third : date.isoText.drop 8 = Chars.digits 2 date.day := by
    rw [← List.drop_drop (i := 4) (j := 4), rest]
    exact List.drop_left' (show (Chars.digits 2 date.month ++ ['-']).length = 3 from rfl)
  have same : (⟨Decimal.natOf (date.isoText.take 4), Decimal.natOf ((date.isoText.drop 5).take 2),
      Decimal.natOf (date.isoText.drop 8)⟩ : Date) = date := by
    rw [first, second, third, Chars.natOf_digits year, Chars.natOf_digits month,
      Chars.natOf_digits day, Int.toNat_of_nonneg shown.year_nonneg]
  simp only [ofIso?, same]
  exact if_pos ⟨shown, trivial⟩

namespace Stamp

theorem IsShown.date {stamp : Stamp} (shown : stamp.IsShown) : stamp.date.IsShown :=
  ⟨shown.isReal, shown.year_nonneg, shown.year_le⟩

def intoMonth (stamp : Stamp) : ℚ := (stamp.date.day - 1) * 86400 + stamp.seconds

/-- The day and the time of the day, in a text whose parts get smaller and smaller. -/
def intoMonthText (stamp : Stamp) : List Char :=
  Chars.digits 2 stamp.date.day ++ (Chars.digits 2 (stamp.millis / 3600000) ++
    (Chars.digits 2 (stamp.millis / 60000 % 60) ++ (Chars.digits 2 (stamp.millis / 1000 % 60) ++
      '.' :: Chars.digits 3 (stamp.millis % 1000))))

theorem shown?_intoMonth (stamp : Stamp) :
    stamp.shown? "%d%H%M%f".toList = some stamp.intoMonthText := by
  rw [intoMonthText, ← List.append_nil (Chars.digits 2 (stamp.millis / 1000 % 60) ++ _)]
  rfl

theorem intoMonth_lt_iff {a b : Stamp} (first : a.IsShown) (second : b.IsShown) :
    a.intoMonth < b.intoMonth ↔
      a.date.day * 86400000 + a.millis < b.date.day * 86400000 + b.millis := by
  rw [intoMonth, intoMonth, seconds_eq first, seconds_eq second, ← Nat.cast_lt (α := ℚ)]
  push_cast
  constructor
  · intro less
    linarith
  · intro less
    linarith

theorem before_intoMonthText {a b : Stamp} (first : a.IsShown) (second : b.IsShown) :
    Chars.before a.intoMonthText b.intoMonthText = decide (a.intoMonth < b.intoMonth) := by
  have day : ∀ {stamp : Stamp}, stamp.IsShown → stamp.date.day < 10 ^ 2 := fun shown =>
    lt_of_le_of_lt (Date.day_le_31 shown.isReal) (by decide)
  have small := millis_lt first
  have small' := millis_lt second
  rw [intoMonthText, intoMonthText, Chars.before_digits_append (day first) (day second),
    Chars.before_digits_append (by omega) (by omega),
    Chars.before_digits_append (by omega) (by omega),
    Chars.before_digits_append (by omega) (by omega), Chars.before_cons,
    Chars.before_digits (by omega) (by omega), Bool.eq_iff_iff]
  simp only [Bool.or_eq_true, Bool.and_eq_true, decide_eq_true_iff]
  rw [intoMonth_lt_iff first second]
  omega

end Stamp

end SheetSql
