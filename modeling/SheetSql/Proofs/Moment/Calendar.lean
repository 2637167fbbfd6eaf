import Mathlib.Algebra.Order.Floor.Ring
import Mathlib.Data.Rat.Floor
import Mathlib.Tactic.Linarith
import Mathlib.Tactic.NormNum
import SheetSql.Clock.Instant

namespace SheetSql

/-! Sums of dates and times with spans of months, days and seconds, as Postgres takes them. -/

namespace Date

def isLeap (year : Int) : Bool := year % 4 == 0 && (year % 100 != 0 || year % 400 == 0)

def daysInMonth (year : Int) (month : Nat) : Nat :=
  if month = 2 then (if isLeap year then 29 else 28)
  else if month ∈ [4, 6, 9, 11] then 30
  else 31

structure IsReal (date : Date) : Prop where
  month_pos : 1 ≤ date.month
  month_le : date.month ≤ 12
  day_pos : 1 ≤ date.day
  day_le : date.day ≤ daysInMonth date.year date.month

instance (date : Date) : Decidable date.IsReal :=
  decidable_of_iff (1 ≤ date.month ∧ date.month ≤ 12 ∧ 1 ≤ date.day ∧
      date.day ≤ daysInMonth date.year date.month)
    ⟨fun ⟨a, b, c, d⟩ => ⟨a, b, c, d⟩, fun real => ⟨real.1, real.2, real.3, real.4⟩⟩

/-- The same day of another month, or the last one if that month is too short. -/
def addMonths (date : Date) (months : Int) : Date :=
  let total := date.year * 12 + (date.month - 1) + months
  let year := total / 12
  let month := (total % 12).toNat + 1
  ⟨year, month, min date.day (daysInMonth year month)⟩

def next (date : Date) : Date :=
  if date.day < daysInMonth date.year date.month then { date with day := date.day + 1 }
  else if date.month < 12 then ⟨date.year, date.month + 1, 1⟩
  else ⟨date.year + 1, 1, 1⟩

def previous (date : Date) : Date :=
  if 1 < date.day then { date with day := date.day - 1 }
  else if 1 < date.month then
    ⟨date.year, date.month - 1, daysInMonth date.year (date.month - 1)⟩
  else ⟨date.year - 1, 12, 31⟩

def addDays (date : Date) : Int → Date
  | .ofNat days => next^[days] date
  | .negSucc days => previous^[days + 1] date

theorem daysInMonth_pos (year : Int) (month : Nat) : 1 ≤ daysInMonth year month := by
  unfold daysInMonth
  split
  · split <;> decide
  · split <;> decide

def nextMonth (year : Int) (month : Nat) : Date :=
  if month < 12 then ⟨year, month + 1, 1⟩ else ⟨year + 1, 1, 1⟩

theorem addMonths_one (year : Int) {month : Nat} (first : 1 ≤ month) (last : month ≤ 12) :
    addMonths ⟨year, month, 1⟩ 1 = nextMonth year month := by
  have one : ∀ year month, min 1 (daysInMonth year month) = 1 := fun year month =>
    min_eq_left (daysInMonth_pos year month)
  unfold nextMonth
  split
  · next before =>
      have same : (year * 12 + (↑month - 1) + 1) / 12 = year := by omega
      have later : ((year * 12 + (↑month - 1) + 1) % 12).toNat + 1 = month + 1 := by omega
      simp only [addMonths, same, later, one]
  · next december =>
      have later : (year * 12 + (↑month - 1) + 1) / 12 = year + 1 := by omega
      have first : ((year * 12 + (↑month - 1) + 1) % 12).toNat + 1 = 1 := by omega
      simp only [addMonths, later, first, one]

theorem addMonths_zero {date : Date} (real : date.IsReal) : date.addMonths 0 = date := by
  obtain ⟨year, month, day⟩ := date
  obtain ⟨first, last, -, bound⟩ := real
  have same : (year * 12 + (↑month - 1) + 0) / 12 = year := by
    dsimp only at first last
    omega
  have kept : ((year * 12 + (↑month - 1) + 0) % 12).toNat + 1 = month := by
    dsimp only at first last
    omega
  simp only [addMonths, same, kept, min_eq_left bound]

theorem isReal_nextMonth (year : Int) (month : Nat) : (nextMonth year month).IsReal := by
  unfold nextMonth
  split
  · next before => exact ⟨by simp, Nat.succ_le_of_lt before, le_refl 1, daysInMonth_pos _ _⟩
  · exact ⟨le_refl 1, by simp, le_refl 1, daysInMonth_pos _ _⟩

theorem previous_nextMonth (year : Int) {month : Nat} (first : 1 ≤ month) (last : month ≤ 12) :
    (nextMonth year month).previous = ⟨year, month, daysInMonth year month⟩ := by
  unfold nextMonth
  split
  · rw [previous, if_neg (by simp), if_pos (show 1 < month + 1 by omega)]
    rfl
  · next december =>
      have twelve : month = 12 := by omega
      subst twelve
      rw [previous, if_neg (by simp), if_neg (by simp)]
      simp [daysInMonth]

theorem year_next (date : Date) :
    date.year ≤ date.next.year ∧ date.next.year ≤ date.year + 1 := by
  unfold next
  split
  · exact ⟨le_refl _, by simp⟩
  · split
    · exact ⟨le_refl _, by simp⟩
    · exact ⟨by simp, le_refl _⟩

theorem year_previous (date : Date) :
    date.year - 1 ≤ date.previous.year ∧ date.previous.year ≤ date.year := by
  unfold previous
  split
  · exact ⟨by simp, le_refl _⟩
  · split
    · exact ⟨by simp, le_refl _⟩
    · exact ⟨le_refl _, by simp⟩

theorem year_addDays (date : Date) (days : Int) :
    date.year - |days| ≤ (date.addDays days).year ∧
      (date.addDays days).year ≤ date.year + |days| := by
  cases days with
  | ofNat days =>
    change _ ≤ (next^[days] date).year ∧ (next^[days] date).year ≤ _
    induction days with
    | zero => simp
    | succ days ih =>
      rw [Function.iterate_succ_apply']
      have step := year_next (next^[days] date)
      simp only [Int.ofNat_eq_natCast, Nat.cast_succ, Nat.abs_cast] at ih ⊢
      have size : |(days : Int) + 1| = days + 1 := abs_of_nonneg (by positivity)
      omega
  | negSucc days =>
    change _ ≤ (previous^[days + 1] date).year ∧ (previous^[days + 1] date).year ≤ _
    have size : |Int.negSucc days| = days + 1 := by
      rw [Int.negSucc_eq, abs_neg]
      exact abs_of_nonneg (by positivity)
    rw [size]
    clear size
    induction days with
    | zero =>
      have step := year_previous date
      simp only [zero_add, Function.iterate_one, Nat.cast_zero]
      omega
    | succ days ih =>
      rw [Function.iterate_succ_apply']
      have step := year_previous (previous^[days + 1] date)
      push_cast at ih ⊢
      omega

end Date

/-- A time of a day, which has 86400 seconds. -/
structure Stamp where
  date : Date
  seconds : ℚ
  deriving DecidableEq

/-- Months, days and seconds, of which only seconds always mean the same time. -/
structure Span where
  months : Int
  days : Int
  seconds : ℚ
  deriving DecidableEq

namespace Span

instance : Neg Span := ⟨fun span => ⟨-span.months, -span.days, -span.seconds⟩⟩

/-- A span of years, months, weeks, days, hours and minutes, as far as they are given. -/
def ofAmounts (amounts : List Int) : Span :=
  let amount := fun i => amounts.getD i 0
  ⟨amount 0 * 12 + amount 1, amount 2 * 7 + amount 3, amount 4 * 3600 + amount 5 * 60⟩

end Span

namespace Stamp

/-- The times that Postgres has a value for. -/
def IsStored (stamp : Stamp) : Prop := -4713 < stamp.date.year ∧ stamp.date.year < 294277

instance (stamp : Stamp) : Decidable stamp.IsStored :=
  inferInstanceAs (Decidable (-4713 < stamp.date.year ∧ stamp.date.year < 294277))

/-- Adds months, then days and then seconds, which may carry over to other days. -/
def add (stamp : Stamp) (span : Span) : Stamp :=
  let date := (stamp.date.addMonths span.months).addDays span.days
  let seconds := stamp.seconds + span.seconds
  let carry := ⌊seconds / 86400⌋
  ⟨date.addDays carry, seconds - carry * 86400⟩

theorem add_midnight (date : Date) (months days : Int) :
    (⟨date, 0⟩ : Stamp).add ⟨months, days, 0⟩ = ⟨(date.addMonths months).addDays days, 0⟩ := by
  simp [add, Date.addDays]

theorem year_add_seconds {stamp : Stamp} (real : stamp.date.IsReal) (start : 0 ≤ stamp.seconds)
    (finish : stamp.seconds < 86400) {seconds : ℚ} {days : Int} (low : -(days * 86400) ≤ seconds)
    (high : seconds ≤ days * 86400) :
    stamp.date.year - (days + 1) ≤ (stamp.add ⟨0, 0, seconds⟩).date.year ∧
      (stamp.add ⟨0, 0, seconds⟩).date.year ≤ stamp.date.year + (days + 1) := by
  have date : (stamp.add ⟨0, 0, seconds⟩).date =
      stamp.date.addDays ⌊(stamp.seconds + seconds) / 86400⌋ := by
    simp only [add, Date.addMonths_zero real]
    rfl
  have lower : -(days + 1) ≤ ⌊(stamp.seconds + seconds) / 86400⌋ := by
    rw [Int.le_floor, le_div_iff₀ (by norm_num)]
    push_cast
    linarith
  have upper : ⌊(stamp.seconds + seconds) / 86400⌋ ≤ days + 1 := by
    have below : (stamp.seconds + seconds) / 86400 ≤ ((days + 1 : Int) : ℚ) := by
      rw [div_le_iff₀ (by norm_num)]
      push_cast
      linarith
    exact Int.floor_le_iff.2 (lt_of_le_of_lt below (by push_cast; linarith))
  have size : |⌊(stamp.seconds + seconds) / 86400⌋| ≤ days + 1 := abs_le.2 ⟨lower, upper⟩
  have bounds := Date.year_addDays stamp.date ⌊(stamp.seconds + seconds) / 86400⌋
  rw [date]
  omega

end Stamp

end SheetSql
