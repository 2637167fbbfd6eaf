import SheetSql.Compile.Workday
import SheetSql.Proofs.Denotation.Server

namespace SheetSql

/-! Moves by working days. -/

namespace Date

def isWorkday (date : Date) : Bool := decide (date.weekday ≤ 5)

/-- The first working day on a walk. Of three days in a row one is no day of a weekend. -/
def firstWorkday (step : Date → Date) (date : Date) : Date :=
  if (step date).isWorkday then step date
  else if (step (step date)).isWorkday then step (step date)
  else step (step (step date))

def nextWorkday : Date → Date := firstWorkday next

def previousWorkday : Date → Date := firstWorkday previous

/-- Where a move starts: at a working day, for which a weekend is left against the move. -/
def workdayStart (date : Date) (n : Int) : Date :=
  if date.isWorkday then date
  else if 0 ≤ n then date.previousWorkday else date.nextWorkday

/-- The day that is so many working days later, or earlier for a negative number. -/
def addWorkdays (date : Date) (n : Int) : Date :=
  if 0 ≤ n then nextWorkday^[n.natAbs] (date.workdayStart n)
  else previousWorkday^[n.natAbs] (date.workdayStart n)

theorem isWorkday_iff (date : Date) : date.isWorkday = true ↔ date.dayNumber % 7 ≤ 4 := by
  rw [isWorkday, decide_eq_true_iff, weekday]
  omega

theorem nextWorkday_spec {date : Date} (real : date.IsReal) :
    date.nextWorkday.IsReal ∧ date.nextWorkday.isWorkday = true ∧
      date.nextWorkday.dayNumber =
        date.dayNumber + if date.dayNumber % 7 ≤ 3 then 1 else 7 - date.dayNumber % 7 := by
  have realTwo := isReal_next (isReal_next real)
  have one := dayNumber_next real
  have two := dayNumber_next (isReal_next real)
  have three := dayNumber_next realTwo
  rw [isWorkday_iff, nextWorkday, firstWorkday]
  simp only [isWorkday_iff]
  split
  · exact ⟨isReal_next real, by split <;> omega⟩
  · split
    · exact ⟨realTwo, by split <;> omega⟩
    · exact ⟨isReal_next realTwo, by split <;> omega⟩

theorem previousWorkday_spec {date : Date} (real : date.IsReal) :
    date.previousWorkday.IsReal ∧ date.previousWorkday.isWorkday = true ∧
      date.previousWorkday.dayNumber =
        date.dayNumber -
          if date.dayNumber % 7 = 0 then 3 else if date.dayNumber % 7 = 6 then 2 else 1 := by
  have realTwo := isReal_previous (isReal_previous real)
  have one := dayNumber_previous real
  have two := dayNumber_previous (isReal_previous real)
  have three := dayNumber_previous realTwo
  rw [isWorkday_iff, previousWorkday, firstWorkday]
  simp only [isWorkday_iff]
  split
  · exact ⟨isReal_previous real, by split <;> omega⟩
  · split
    · exact ⟨realTwo, by split <;> omega⟩
    · exact ⟨isReal_previous realTwo, by split <;> omega⟩

theorem nextWorkday_iterate {date : Date} (real : date.IsReal) (workday : date.isWorkday = true)
    (steps : Nat) :
    (nextWorkday^[steps] date).IsReal ∧
      (nextWorkday^[steps] date).dayNumber =
        date.dayNumber + steps + 2 * ((date.dayNumber % 7 + steps) / 5) := by
  rw [isWorkday_iff] at workday
  -- Without the weekends that are passed, the day of the week grows by one with each step.
  induction steps with
  | zero => exact ⟨real, by rw [Function.iterate_zero_apply]; omega⟩
  | succ steps ih =>
    obtain ⟨isReal, -, number⟩ := nextWorkday_spec ih.1
    rw [Function.iterate_succ_apply', number, ih.2]
    exact ⟨isReal, by split <;> omega⟩

theorem previousWorkday_iterate {date : Date} (real : date.IsReal)
    (workday : date.isWorkday = true) (steps : Nat) :
    (previousWorkday^[steps] date).IsReal ∧
      (previousWorkday^[steps] date).dayNumber =
        date.dayNumber - steps - 2 * ((4 - date.dayNumber % 7 + steps) / 5) := by
  rw [isWorkday_iff] at workday
  induction steps with
  | zero => exact ⟨real, by rw [Function.iterate_zero_apply]; omega⟩
  | succ steps ih =>
    obtain ⟨isReal, -, number⟩ := previousWorkday_spec ih.1
    rw [Function.iterate_succ_apply', number, ih.2]
    exact ⟨isReal, by split <;> omega⟩

def daysToStart (weekday n : Int) : Int :=
  if 5 < weekday then (if 0 ≤ n then 5 - weekday else 8 - weekday) else 0

def startWeekday (weekday n : Int) : Int :=
  if 5 < weekday then (if 0 ≤ n then 5 else 1) else weekday

def daysToShift (weekday n : Int) : Int :=
  daysToStart weekday n +
    if 0 ≤ n then n + 2 * (startWeekday weekday n - 1 + n).tdiv 5
    else n - 2 * (5 - startWeekday weekday n - n).tdiv 5

theorem workdayStart_spec {date : Date} (real : date.IsReal) (n : Int) :
    (date.workdayStart n).IsReal ∧ (date.workdayStart n).isWorkday = true ∧
      (date.workdayStart n).dayNumber = date.dayNumber + daysToStart date.weekday n ∧
      (date.workdayStart n).dayNumber % 7 = startWeekday date.weekday n - 1 := by
  obtain ⟨realNext, workdayNext, next⟩ := nextWorkday_spec real
  obtain ⟨realPrevious, workdayPrevious, previous⟩ := previousWorkday_spec real
  unfold workdayStart daysToStart startWeekday weekday
  split
  · next workday =>
      have early := (isWorkday_iff date).1 workday
      exact ⟨real, workday, by omega⟩
  · next weekend =>
      have late := mt (isWorkday_iff date).2 weekend
      split
      · exact ⟨realPrevious, workdayPrevious, by omega⟩
      · exact ⟨realNext, workdayNext, by omega⟩

theorem dayNumber_addWorkdays {date : Date} (real : date.IsReal) (n : Int) :
    (date.addWorkdays n).IsReal ∧
      (date.addWorkdays n).dayNumber = date.dayNumber + daysToShift date.weekday n := by
  obtain ⟨realStart, workday, start, weekday⟩ := workdayStart_spec real n
  have early := (isWorkday_iff _).1 workday
  unfold addWorkdays daysToShift
  split
  · next forward =>
      obtain ⟨isReal, number⟩ := nextWorkday_iterate realStart workday n.natAbs
      refine ⟨isReal, ?_⟩
      rw [number, Int.tdiv_eq_ediv_of_nonneg (by omega)]
      omega
  · next back =>
      obtain ⟨isReal, number⟩ := previousWorkday_iterate realStart workday n.natAbs
      refine ⟨isReal, ?_⟩
      rw [number, Int.tdiv_eq_ediv_of_nonneg (by omega)]
      omega

theorem exists_weekday (first : 1 ≤ dow) (last : dow ≤ 7) :
    ∃ date : Date, date.IsReal ∧ date.weekday = dow := by
  obtain ⟨day, rfl⟩ := Int.eq_ofNat_of_zero_le (Int.le_trans (by decide) first)
  have small : day ≤ 31 := by omega
  have number : dayNumber ⟨1, 1, day⟩ = day - 1 := by
    have years : daysBeforeYear 1 = 0 := rfl
    have months : daysOfMonths 1 (1 - 1) = 0 := rfl
    simp only [dayNumber, years, months]
    omega
  refine ⟨⟨1, 1, day⟩, ⟨le_rfl, Nat.le_add_left 1 11, Int.ofNat_le.1 first, small⟩, ?_⟩
  rw [weekday, number]
  omega

end Date

open Server in
theorem denotes_workdayShift {server : Server} {weekday shift : Expr}
    (isWeekday : weekday.Denotes server.interpretation frame (.int dow))
    (isShift : shift.Denotes server.interpretation frame (.int n)) :
    (Call.workdayShift weekday shift).Denotes server.interpretation frame
      (.int (Date.daysToShift dow n)) := by
  have isForward := denotes_ge isShift (denotes_nat 0)
  have isWeekend := denotes_gt isWeekday (denotes_nat 5)
  have toWorkday := denotes_ite isWeekend
    (denotes_ite isForward (denotes_sub (denotes_nat 5) isWeekday)
      (denotes_sub (denotes_nat 8) isWeekday)) (denotes_nat 0)
  have start := denotes_ite isWeekend (denotes_ite isForward (denotes_nat 5) (denotes_nat 1))
    isWeekday
  have later := denotes_add isShift (denotes_mul (denotes_nat 2)
    (denotes_div (denotes_add (denotes_sub start (denotes_nat 1)) isShift) (denotes_nat 5)
      (by decide)))
  have apart : (Expr.chain .sub [5, _, shift]).Denotes server.interpretation frame _ :=
    .chain (.cons (denotes_nat 5) (.cons start (.cons isShift .nil))) rfl
  have earlier := denotes_sub isShift (denotes_mul (denotes_nat 2)
    (denotes_div apart (denotes_nat 5) (by decide)))
  exact denotes_add toWorkday (denotes_ite isForward later earlier)

/--
A shift by working days moves a day to the one that the calendar reaches when it is walked day by
day, whatever the day of the week is that it starts on and however far it goes.
-/
theorem workdayShift_reaches (server : Server) (frame : Frame Item) {weekday shift : Expr}
    {dow n : Int} (first : 1 ≤ dow) (last : dow ≤ 7)
    (isWeekday : weekday.Denotes server.interpretation frame (.int dow))
    (isShift : shift.Denotes server.interpretation frame (.int n)) :
    ∃ days : Int,
      (Call.workdayShift weekday shift).Denotes server.interpretation frame (.int days) ∧
      (∃ date : Date, date.IsReal ∧ date.weekday = dow) ∧
      ∀ date : Date, date.IsReal → date.weekday = dow →
        date.addDays days = date.addWorkdays n := by
  refine ⟨_, denotes_workdayShift isWeekday isShift, Date.exists_weekday first last, ?_⟩
  intro date real weekday
  obtain ⟨isReal, number⟩ := Date.dayNumber_addWorkdays real n
  rw [weekday] at number
  exact (Date.addDays_eq_iff real isReal _).2 number

open Server in
/-- Three working days before a Saturday, which are counted back from the Monday after it. -/
theorem workdayShift_reaches_saturday :
    ∃ days : Int,
      (Call.workdayShift 6 (-3)).Denotes (Server.ofDays .sqlite fun _ => .null).interpretation
        .empty (.int days) ∧
      (∃ date : Date, date.IsReal ∧ date.weekday = 6) ∧
      ∀ date : Date, date.IsReal → date.weekday = 6 →
        date.addDays days = date.addWorkdays (-3) :=
  workdayShift_reaches _ _ (by decide) (by decide) (denotes_nat 6) (.unary (denotes_nat 3) rfl)

example : Date.addWorkdays ⟨2024, 1, 6⟩ (-3) = ⟨2024, 1, 3⟩ := by decide

end SheetSql
