import SheetSql.Proofs.Meaning.Datum

namespace SheetSql

/-! Times that Postgres makes out of numbers without an error. -/

structure WallTime where
  date : Date
  hour : Nat
  minute : Nat
  second : ℚ
  year_pos : 1 ≤ date.year
  year_le : date.year ≤ 9999
  isReal : date.IsReal
  hour_le : hour ≤ 23
  minute_le : minute ≤ 59
  second_nonneg : 0 ≤ second
  second_lt : second < 60

namespace WallTime

def stamp (time : WallTime) : Stamp :=
  ⟨time.date, time.hour * 3600 + time.minute * 60 + time.second⟩

/-- The arguments that make a time, of which the last one may be written in several ways. -/
def args (time : WallTime) (second : Value) : List Datum :=
  [.value (.int time.date.year), .value (.int time.date.month), .value (.int time.date.day),
   .value (.int time.hour), .value (.int time.minute), .value second]

theorem seconds_stamp (time : WallTime) :
    0 ≤ time.stamp.seconds ∧ time.stamp.seconds < 86400 := by
  have hours : (time.hour : ℚ) ≤ 23 := by exact_mod_cast time.hour_le
  have minutes : (time.minute : ℚ) ≤ 59 := by exact_mod_cast time.minute_le
  have low := time.second_nonneg
  have high := time.second_lt
  have noHours : (0 : ℚ) ≤ time.hour := Nat.cast_nonneg _
  have noMinutes : (0 : ℚ) ≤ time.minute := Nat.cast_nonneg _
  constructor
  · simp only [stamp]
    linarith
  · simp only [stamp]
    linarith

theorem apply_args (time : WallTime) (engine : Engine) {second : Value}
    (number : second.number? = some time.second) :
    engine.apply "make_timestamp" (time.args second) = some (.stamp time.stamp) := by
  have stored : time.stamp.IsStored := by
    have := time.year_pos
    have := time.year_le
    simp only [Stamp.IsStored, stamp]
    omega
  have inRange : 0 < time.date.year ∧ time.date.IsReal ∧ (0 : Int) ≤ time.hour ∧
      (time.hour : Int) < 24 ∧ (0 : Int) ≤ time.minute ∧ (time.minute : Int) < 60 ∧
      0 ≤ time.second ∧ time.second < 60 := by
    have := time.year_pos
    have := time.hour_le
    have := time.minute_le
    exact ⟨by omega, time.isReal, by omega, by omega, by omega, by omega, time.second_nonneg,
      time.second_lt⟩
  have known : (time.args second).any Datum.isNull = false := by
    have notNull : second ≠ .null := by
      intro null
      rw [null] at number
      cases number
    simp [args, Datum.isNull, notNull]
  change Engine.strict _ (Engine.makeTimestamp _) = _
  rw [Engine.strict, known, if_neg (by decide), args, Engine.makeTimestamp]
  simp only [number, Option.bind_some, Int.toNat_natCast, if_pos inRange]
  exact if_pos stored

/-- An offset of a few days leads to a time that Postgres still has a value for. -/
theorem stored_add (time : WallTime) (low : -432000 ≤ seconds) (high : seconds ≤ 432000) :
    Engine.stored (time.stamp.add ⟨0, 0, seconds⟩) =
      some (.stamp (time.stamp.add ⟨0, 0, seconds⟩)) := by
  obtain ⟨start, finish⟩ := time.seconds_stamp
  have least : -(((5 : Int) : ℚ) * 86400) ≤ seconds := by
    push_cast
    linarith
  have most : seconds ≤ ((5 : Int) : ℚ) * 86400 := by
    push_cast
    linarith
  have bounds := Stamp.year_add_seconds time.isReal start finish least most
  have first : 1 ≤ time.stamp.date.year := time.year_pos
  have last : time.stamp.date.year ≤ 9999 := time.year_le
  refine if_pos ?_
  rw [Stamp.IsStored]
  omega

end WallTime

section

variable {year month : Nat}

def monthStart (year month : Nat) : List Datum :=
  [.value (.int year), .value (.int month), .value (.int 1)]

structure IsMonth (year month : Nat) : Prop where
  year_pos : 1 ≤ year
  year_le : year ≤ 9999
  month_pos : 1 ≤ month
  month_le : month ≤ 12

theorem makeDate_monthStart (isMonth : IsMonth year month) :
    Engine.makeDate (monthStart year month) = some (.stamp ⟨⟨year, month, 1⟩, 0⟩) := by
  obtain ⟨yearPos, yearLe, monthPos, monthLe⟩ := isMonth
  have real : (⟨year, month, 1⟩ : Date).IsReal :=
    ⟨monthPos, monthLe, le_refl 1, Date.daysInMonth_pos _ _⟩
  have stored : (⟨⟨year, month, 1⟩, 0⟩ : Stamp).IsStored := by
    simp only [Stamp.IsStored]
    omega
  have positive : (0 : Int) < year := by omega
  rw [monthStart, Engine.makeDate]
  simp only [Int.toNat_natCast, Int.toNat_one, if_pos (And.intro positive real)]
  exact if_pos stored

theorem stored_nextMonth (isMonth : IsMonth year month) :
    Engine.stored ((⟨⟨year, month, 1⟩, 0⟩ : Stamp).add ⟨1, 0, 0⟩) =
      some (.stamp ⟨Date.nextMonth year month, 0⟩) := by
  obtain ⟨yearPos, yearLe, monthPos, monthLe⟩ := isMonth
  have next : (⟨⟨year, month, 1⟩, 0⟩ : Stamp).add ⟨1, 0, 0⟩ =
      ⟨Date.nextMonth year month, 0⟩ := by
    rw [Stamp.add_midnight, Date.addMonths_one year monthPos monthLe]
    rfl
  rw [next]
  refine if_pos ?_
  rw [Stamp.IsStored, Date.nextMonth]
  split
  · dsimp only
    omega
  · dsimp only
    omega

theorem stored_lastDay (isMonth : IsMonth year month) :
    Engine.stored ((⟨Date.nextMonth year month, 0⟩ : Stamp).add ⟨0, -1, 0⟩) =
      some (.stamp ⟨⟨year, month, Date.daysInMonth year month⟩, 0⟩) := by
  obtain ⟨yearPos, yearLe, monthPos, monthLe⟩ := isMonth
  have last : (⟨Date.nextMonth year month, 0⟩ : Stamp).add ⟨0, -1, 0⟩ =
      ⟨⟨year, month, Date.daysInMonth year month⟩, 0⟩ := by
    rw [Stamp.add_midnight, Date.addMonths_zero (Date.isReal_nextMonth year month)]
    exact congrArg (Stamp.mk · 0) (Date.previous_nextMonth year monthPos monthLe)
  rw [last]
  refine if_pos ?_
  simp only [Stamp.IsStored]
  omega

end

end SheetSql
