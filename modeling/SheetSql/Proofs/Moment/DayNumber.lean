import SheetSql.Proofs.Moment.Calendar

namespace SheetSql.Date

/-! Days by their numbers. -/

def daysBeforeYear (year : Int) : Int :=
  (year - 1) * 365 + (year - 1) / 4 - (year - 1) / 100 + (year - 1) / 400

def daysOfMonths (year : Int) : Nat → Nat
  | 0 => 0
  | months + 1 => daysOfMonths year months + daysInMonth year (months + 1)

def dayNumber (date : Date) : Int :=
  daysBeforeYear date.year + daysOfMonths date.year (date.month - 1) + date.day - 1

def weekday (date : Date) : Int := date.dayNumber % 7 + 1

theorem isLeap_iff (year : Int) :
    isLeap year = true ↔ year % 4 = 0 ∧ (year % 100 ≠ 0 ∨ year % 400 = 0) := by
  simp [isLeap]

theorem daysOfMonths_twelve (year : Int) :
    daysOfMonths year 12 = if isLeap year then 366 else 365 := by
  cases leap : isLeap year <;> simp [daysOfMonths, daysInMonth, leap]

theorem daysBeforeYear_succ (year : Int) :
    daysBeforeYear (year + 1) = daysBeforeYear year + daysOfMonths year 12 := by
  rw [daysOfMonths_twelve]
  unfold daysBeforeYear
  split
  · next leap =>
      rw [isLeap_iff] at leap
      omega
  · next common =>
      rw [isLeap_iff] at common
      omega

theorem daysBeforeYear_mono {year later : Int} (before : year ≤ later) :
    daysBeforeYear year ≤ daysBeforeYear later := by
  unfold daysBeforeYear
  omega

theorem daysOfMonths_mono (year : Int) {months more : Nat} (le : months ≤ more) :
    daysOfMonths year months ≤ daysOfMonths year more := by
  induction le with
  | refl => exact Nat.le_refl _
  | step _ ih => exact ih.trans (Nat.le_add_right _ _)

theorem daysOfMonths_of_pos (year : Int) {month : Nat} (first : 1 ≤ month) :
    daysOfMonths year month = daysOfMonths year (month - 1) + daysInMonth year month := by
  obtain ⟨months, rfl⟩ := Nat.exists_eq_add_of_le' first
  rfl

theorem dayNumber_next {date : Date} (real : date.IsReal) :
    date.next.dayNumber = date.dayNumber + 1 := by
  obtain ⟨first, last, -, bound⟩ := real
  have month := daysOfMonths_of_pos date.year first
  unfold next
  split
  · simp only [dayNumber]
    omega
  · next full =>
      split
      · simp only [dayNumber, Nat.add_sub_cancel]
        omega
      · next december =>
          have twelve : date.month = 12 := by omega
          have year := daysBeforeYear_succ date.year
          have none : daysOfMonths (date.year + 1) (1 - 1) = 0 := rfl
          rw [twelve] at month full bound
          simp only [dayNumber, twelve]
          omega

theorem dayNumber_previous {date : Date} (real : date.IsReal) :
    date.previous.dayNumber = date.dayNumber - 1 := by
  obtain ⟨first, last, dayPos, -⟩ := real
  unfold previous
  split
  · simp only [dayNumber]
    omega
  · split
    · next later =>
        have month := daysOfMonths_of_pos date.year (Nat.le_sub_one_of_lt later)
        simp only [dayNumber]
        omega
    · next january =>
        have one : date.month = 1 := by omega
        have year := daysBeforeYear_succ (date.year - 1)
        have month := daysOfMonths_of_pos (date.year - 1) (show 1 ≤ 12 by decide)
        have december : daysInMonth (date.year - 1) 12 = 31 := rfl
        have none : daysOfMonths date.year (1 - 1) = 0 := rfl
        rw [Int.sub_add_cancel] at year
        simp only [dayNumber, one]
        omega

theorem isReal_next {date : Date} (real : date.IsReal) : date.next.IsReal := by
  unfold next
  split
  · next within => exact { real with day_pos := Nat.le_add_left 1 _, day_le := within }
  · exact isReal_nextMonth date.year date.month

theorem isReal_previous {date : Date} (real : date.IsReal) : date.previous.IsReal := by
  have last := real.month_le
  unfold previous
  split
  · next later =>
      exact { real with
        day_pos := Nat.le_sub_one_of_lt later
        day_le := (Nat.sub_le _ _).trans real.day_le }
  · split
    · next later =>
        exact ⟨Nat.le_sub_one_of_lt later, (Nat.sub_le _ _).trans last, daysInMonth_pos _ _, le_rfl⟩
    · exact ⟨Nat.le_add_left 1 11, le_rfl, Nat.le_add_left 1 30, le_rfl⟩

def Before (a b : Date) : Prop :=
  a.year < b.year ∨ a.year = b.year ∧
    (a.month < b.month ∨ a.month = b.month ∧ a.day < b.day)

theorem dayNumber_bounds {date : Date} (real : date.IsReal) :
    daysBeforeYear date.year + daysOfMonths date.year (date.month - 1) ≤ date.dayNumber ∧
      date.dayNumber < daysBeforeYear date.year + daysOfMonths date.year date.month ∧
      date.dayNumber < daysBeforeYear (date.year + 1) := by
  obtain ⟨first, last, dayPos, bound⟩ := real
  have month := daysOfMonths_of_pos date.year first
  have rest := daysOfMonths_mono date.year last
  have year := daysBeforeYear_succ date.year
  unfold dayNumber
  omega

theorem dayNumber_lt_of_before {a b : Date} (first : a.IsReal) (second : b.IsReal)
    (before : a.Before b) : a.dayNumber < b.dayNumber := by
  obtain ⟨-, monthEnd, yearEnd⟩ := dayNumber_bounds first
  obtain ⟨monthStart, -⟩ := dayNumber_bounds second
  rcases before with earlier | ⟨sameYear, earlier | ⟨sameMonth, earlier⟩⟩
  · have years := daysBeforeYear_mono (Int.add_one_le_of_lt earlier)
    omega
  · have months := daysOfMonths_mono b.year (Nat.le_sub_one_of_lt earlier)
    rw [sameYear] at monthEnd
    omega
  · simp only [dayNumber, sameYear, sameMonth]
    omega

theorem before_trichotomy (a b : Date) : a.Before b ∨ a = b ∨ b.Before a := by
  obtain ⟨year, month, day⟩ := a
  obtain ⟨year', month', day'⟩ := b
  simp only [Before, mk.injEq]
  omega

theorem dayNumber_lt_iff {a b : Date} (first : a.IsReal) (second : b.IsReal) :
    a.dayNumber < b.dayNumber ↔ a.Before b := by
  refine ⟨fun less => ?_, dayNumber_lt_of_before first second⟩
  rcases before_trichotomy a b with before | rfl | after
  · exact before
  · exact absurd less (lt_irrefl _)
  · exact absurd (dayNumber_lt_of_before second first after) (not_lt_of_gt less)

theorem dayNumber_inj {a b : Date} (first : a.IsReal) (second : b.IsReal) :
    a.dayNumber = b.dayNumber ↔ a = b := by
  refine ⟨fun same => ?_, congrArg dayNumber⟩
  rcases before_trichotomy a b with before | equal | after
  · exact absurd same (dayNumber_lt_of_before first second before).ne
  · exact equal
  · exact absurd same (dayNumber_lt_of_before second first after).ne'

theorem next_iterate {date : Date} (real : date.IsReal) (days : Nat) :
    (next^[days] date).IsReal ∧ (next^[days] date).dayNumber = date.dayNumber + days := by
  induction days with
  | zero => exact ⟨real, (Int.add_zero _).symm⟩
  | succ days ih =>
    rw [Function.iterate_succ_apply', dayNumber_next ih.1, ih.2]
    exact ⟨isReal_next ih.1, by omega⟩

theorem previous_iterate {date : Date} (real : date.IsReal) (days : Nat) :
    (previous^[days] date).IsReal ∧ (previous^[days] date).dayNumber = date.dayNumber - days := by
  induction days with
  | zero => exact ⟨real, (Int.sub_zero _).symm⟩
  | succ days ih =>
    rw [Function.iterate_succ_apply', dayNumber_previous ih.1, ih.2]
    exact ⟨isReal_previous ih.1, by omega⟩

theorem addDays_spec {date : Date} (real : date.IsReal) (days : Int) :
    (date.addDays days).IsReal ∧ (date.addDays days).dayNumber = date.dayNumber + days := by
  cases days with
  | ofNat days => exact next_iterate real days
  | negSucc days => exact previous_iterate real (days + 1)

theorem addDays_eq_iff {date other : Date} (real : date.IsReal) (realToo : other.IsReal)
    (days : Int) : date.addDays days = other ↔ other.dayNumber = date.dayNumber + days := by
  obtain ⟨isReal, number⟩ := addDays_spec real days
  rw [← dayNumber_inj isReal realToo, number, eq_comm]

example : Date.ofDays (dayNumber ⟨2024, 2, 29⟩ - dayNumber ⟨1970, 1, 1⟩) = ⟨2024, 2, 29⟩ := by decide

end SheetSql.Date
