import SheetSql.Proofs.Moment.LocalTime
import SheetSql.Proofs.Workday.Shift
import SheetSql.Proofs.Meaning.Division

namespace SheetSql

/-! Numbers of working days. -/

namespace Date

def workdaysAmong (date : Date) (days : Nat) : Nat :=
  (List.iterate next date days).countP isWorkday

/-- The working days from one day to another, both counted, negative if the second is earlier. -/
def workdaysBetween (start finish : Date) : Int :=
  if finish.dayNumber < start.dayNumber then
    -finish.workdaysAmong (start.dayNumber - finish.dayNumber + 1).toNat
  else start.workdaysAmong (finish.dayNumber - start.dayNumber + 1).toNat

theorem workdaysAmong_succ (date : Date) (days : Nat) :
    date.workdaysAmong (days + 1) =
      date.next.workdaysAmong days + if date.weekday ≤ 5 then 1 else 0 := by
  rw [workdaysAmong, List.iterate, List.countP_cons, workdaysAmong]
  simp only [isWorkday, decide_eq_true_iff]

/-- The working days among less than a week of days: those up to Friday, and from Monday on. -/
def workdaysOfRest (weekday rest : Int) : Int :=
  min rest (max 0 (6 - weekday)) + max 0 (rest - (8 - weekday))

theorem workdaysOfRest_next {weekday rest : Int} (first : 1 ≤ weekday) (last : weekday ≤ 7)
    (some : 0 ≤ rest) (part : rest < 7) :
    (rest + 1) / 7 * 5 + workdaysOfRest weekday ((rest + 1) % 7) =
      workdaysOfRest (weekday % 7 + 1) rest + if weekday ≤ 5 then 1 else 0 := by
  have table : ∀ w < 8, ∀ r < 7, 1 ≤ w →
      ((r : Nat) + 1 : Int) / 7 * 5 + workdaysOfRest (w : Nat) ((r + 1) % 7) =
        workdaysOfRest (w % 7 + 1) r + if ((w : Nat) : Int) ≤ 5 then 1 else 0 := by
    decide
  obtain ⟨w, rfl⟩ := Int.eq_ofNat_of_zero_le (Int.le_trans (by decide) first)
  obtain ⟨r, rfl⟩ := Int.eq_ofNat_of_zero_le some
  exact table w (by omega) r (by omega) (by omega)

theorem weekday_bounds (date : Date) : 1 ≤ date.weekday ∧ date.weekday ≤ 7 := by
  unfold weekday
  omega

theorem weekday_next {date : Date} (real : date.IsReal) :
    date.next.weekday = date.weekday % 7 + 1 := by
  rw [weekday, weekday, dayNumber_next real, Int.emod_add_emod]

theorem workdaysAmong_eq {date : Date} (real : date.IsReal) (days : Nat) :
    (date.workdaysAmong days : Int) =
      (days : Int) / 7 * 5 + workdaysOfRest date.weekday ((days : Int) % 7) := by
  induction days generalizing date with
  | zero =>
    have bounds := date.weekday_bounds
    rw [workdaysAmong, List.iterate, List.countP_nil, workdaysOfRest]
    omega
  | succ days ih =>
    have bounds := date.weekday_bounds
    have rest := workdaysOfRest_next bounds.1 bounds.2 (Int.emod_nonneg (days : Int) (by decide))
      (Int.emod_lt_of_pos _ (by decide))
    have weeks : ((days + 1 : Nat) : Int) / 7 = days / 7 + ((days : Int) % 7 + 1) / 7 := by omega
    have part : ((days + 1 : Nat) : Int) % 7 = ((days : Int) % 7 + 1) % 7 := by omega
    rw [workdaysAmong_succ, Nat.cast_add, ih (isReal_next real), weekday_next real, weeks, part,
      Int.add_mul, Int.add_assoc, Int.add_assoc, rest]
    split <;> rfl

theorem workdaysBetween_swap {start finish : Date} (real : start.IsReal) (realToo : finish.IsReal)
    (apart : start ≠ finish) :
    start.workdaysBetween finish = -finish.workdaysBetween start := by
  have distinct := mt (dayNumber_inj real realToo).1 apart
  unfold workdaysBetween
  split
  · next back =>
      rw [if_neg (by omega)]
  · next forward =>
      rw [if_pos (by omega), Int.neg_neg]

theorem dayNumber_shown {date : Date} (shown : date.IsShown) :
    -366 ≤ date.dayNumber ∧ date.dayNumber < 3652059 := by
  obtain ⟨start, -, finish⟩ := dayNumber_bounds shown.toIsReal
  have before : daysBeforeYear 0 ≤ daysBeforeYear date.year := daysBeforeYear_mono shown.year_nonneg
  have after : daysBeforeYear (date.year + 1) ≤ daysBeforeYear 10000 :=
    daysBeforeYear_mono (by have := shown.year_le; omega)
  have first : daysBeforeYear 0 = -366 := rfl
  have last : daysBeforeYear 10000 = 3652059 := rfl
  omega

end Date

open Server

section

variable {server : Server} {frame : Frame Item} {weekday days start finish : Expr}

theorem denotes_businessDays (isWeekday : weekday.Denotes server.interpretation frame (.int dow))
    (isDays : days.Denotes server.interpretation frame (.int n)) (nonneg : 0 ≤ n) :
    (Call.businessDays server.dialect weekday days).Denotes server.interpretation frame
      (.int (n / 7 * 5 + Date.workdaysOfRest dow (n % 7))) := by
  have weeks := denotes_mul (denotes_div isDays (denotes_nat 7) (by decide)) (denotes_nat 5)
  have rest := denotes_mod isDays (denotes_nat 7) (by decide)
  have untilFriday := denotes_least rest
    (denotes_greatest (denotes_nat 0) (denotes_sub (denotes_nat 6) isWeekday))
  have afterSunday := denotes_greatest (denotes_nat 0)
    (denotes_sub rest (denotes_sub (denotes_nat 8) isWeekday))
  rw [Date.workdaysOfRest, ← Int.add_assoc, ← Int.tdiv_eq_ediv_of_nonneg nonneg,
    ← Int.tmod_eq_emod_of_nonneg nonneg]
  exact .chain (.cons weeks (.cons untilFriday (.cons afterSunday .nil))) rfl

theorem denotes_dayWeekday (postgres : server.dialect = .postgres)
    (isDay : start.Denotes server.interpretation frame (server.ofDay date)) :
    ((Expr.extract "ISODOW" start).cast .integer).Denotes server.interpretation frame
      (.int date.weekday) := by
  refine denotes_castInteger postgres (.extract isDay ?_)
  rw [ofDay, postgres]
  rfl

theorem denotes_textWeekday (sqlite : server.dialect = .sqlite) (has : server.HasDay date)
    (isDay : start.Denotes server.interpretation frame (server.ofDay date)) :
    (isoWeekday (.call "strftime" [.text "%w", start])).Denotes server.interpretation frame
      (.int date.weekday) := by
  have bounds := date.weekday_bounds
  simp only [ofDay, sqlite] at isDay
  have isShown : Stamp.shown? ⟨date, 0⟩ "%w".toList =
      some (Chars.digits 1 (date.weekday % 7).toNat) := rfl
  have number := denotes_castWhole sqlite
    (denotes_strftime [] isDay rfl (server.time?_isoText (has.2 sqlite)) isShown)
  rw [Value.castWhole_digits (by omega) (by omega)] at number
  have moved := denotes_add (denotes_mod (denotes_add number (denotes_nat 6)) (denotes_nat 7)
    (by decide)) (denotes_nat 1)
  have same : (((date.weekday % 7).toNat : Int) + (6 : Nat)).tmod (7 : Nat) + (1 : Nat) =
      date.weekday := by
    rw [Int.tmod_eq_emod_of_nonneg (by omega)]
    omega
  rw [same] at moved
  exact moved

theorem denotes_julianday (sqlite : server.dialect = .sqlite) (has : server.HasDay date)
    (isDay : start.Denotes server.interpretation frame (server.ofDay date)) :
    (Expr.call "julianday" [start]).Denotes server.interpretation frame
      (.real (date.dayNumber + (1721425 + 1 / 2))) := by
  simp only [ofDay, sqlite] at isDay
  refine .call (by decide) (.cons isDay .nil) ?_
  have filled : [Item.text date.isoText].any Item.isNull = false := rfl
  refine (server.call_of_filled filled "julianday").trans ?_
  rw [applyTime, server.time?_isoText (has.2 sqlite), Option.elim_some, zero_div, add_zero]
  rfl

section

variable {a b : Date} (isStart : start.Denotes server.interpretation frame (server.ofDay a))
  (isFinish : finish.Denotes server.interpretation frame (server.ofDay b))

include isStart isFinish

theorem denotes_daysBetween (postgres : server.dialect = .postgres) :
    (finish - start).Denotes server.interpretation frame (.int (b.dayNumber - a.dayNumber)) := by
  refine .binary isFinish isStart ?_
  simp only [ofDay, postgres]
  rfl

theorem denotes_daysApart (sqlite : server.dialect = .sqlite) (has : server.HasDay a)
    (hasToo : server.HasDay b) :
    ((Expr.call "julianday" [finish] - .call "julianday" [start]).cast .integer).Denotes
      server.interpretation frame (.int (b.dayNumber - a.dayNumber)) := by
  have first := Date.dayNumber_shown (has.2 sqlite)
  have second := Date.dayNumber_shown (hasToo.2 sqlite)
  have apart : (Expr.call "julianday" [finish] - .call "julianday" [start]).Denotes
      server.interpretation frame (.real ((b.dayNumber - a.dayNumber : Int) : ℚ)) := by
    refine .binary (denotes_julianday sqlite hasToo isFinish)
      (denotes_julianday sqlite has isStart) ?_
    rw [Int.cast_sub, ← add_sub_add_right_eq_sub (b.dayNumber : ℚ) _ (1721425 + 1 / 2)]
    rfl
  have whole := denotes_castWhole sqlite apart
  rw [Value.castWhole, Rat.num_intCast, Rat.den_intCast, Nat.cast_one, Int.tdiv_one,
    Value.ofBounded, min_eq_left (by omega), max_eq_right (by omega)] at whole
  exact whole

theorem denotes_count_postgres (postgres : server.dialect = .postgres)
    (has : server.HasDay a) (ordered : a.dayNumber ≤ b.dayNumber) :
    (Call.businessDays server.dialect ((Expr.extract "ISODOW" start).cast .integer)
      (finish - start + 1)).Denotes server.interpretation frame
      (.int (a.workdaysAmong (b.dayNumber - a.dayNumber + 1).toNat)) := by
  rw [Date.workdaysAmong_eq has.1, Int.toNat_of_nonneg (by omega)]
  exact denotes_businessDays (denotes_dayWeekday postgres isStart)
    (denotes_add (denotes_daysBetween isStart isFinish postgres) (denotes_nat 1)) (by omega)

theorem denotes_count_sqlite (sqlite : server.dialect = .sqlite) (has : server.HasDay a)
    (hasToo : server.HasDay b) (ordered : a.dayNumber ≤ b.dayNumber) :
    (Call.businessDays server.dialect (isoWeekday (.call "strftime" [.text "%w", start]))
      ((Expr.call "julianday" [finish] - .call "julianday" [start]).cast .integer + 1)).Denotes
      server.interpretation frame
      (.int (a.workdaysAmong (b.dayNumber - a.dayNumber + 1).toNat)) := by
  rw [Date.workdaysAmong_eq has.1, Int.toNat_of_nonneg (by omega)]
  exact denotes_businessDays (denotes_textWeekday sqlite has isStart)
    (denotes_add (denotes_daysApart isStart isFinish sqlite has hasToo) (denotes_nat 1)) (by omega)

theorem denotes_ordered (has : server.HasDay a) (hasToo : server.HasDay b) :
    (server.dialect.least [start, finish]).Denotes server.interpretation frame
        (server.ofDay (if b.dayNumber < a.dayNumber then b else a)) ∧
      (server.dialect.greatest [start, finish]).Denotes server.interpretation frame
        (server.ofDay (if b.dayNumber < a.dayNumber then a else b)) := by
  have least := denotes_extreme false isStart isFinish (isNull_ofDay a) (isNull_ofDay b)
    (before?_ofDay hasToo has)
  have greatest := denotes_extreme true isStart isFinish (isNull_ofDay a) (isNull_ofDay b)
    (before?_ofDay has hasToo)
  rw [if_neg Bool.false_ne_true] at least
  rw [if_pos rfl] at greatest
  by_cases back : b.dayNumber < a.dayNumber
  · rw [if_pos back, if_pos back]
    rw [if_pos (decide_eq_true back)] at least
    rw [decide_eq_false (by omega), if_neg Bool.false_ne_true] at greatest
    exact ⟨least, greatest⟩
  · rw [if_neg back, if_neg back]
    rw [decide_eq_false back, if_neg Bool.false_ne_true] at least
    refine ⟨least, ?_⟩
    -- The greatest of two days that are the same is the first one.
    by_cases forward : a.dayNumber < b.dayNumber
    · rwa [if_pos (decide_eq_true forward)] at greatest
    · rw [decide_eq_false forward, if_neg Bool.false_ne_true] at greatest
      rwa [← (Date.dayNumber_inj has.1 hasToo.1).1 (by omega)]

end

theorem denotes_span (count : Expr → Expr → Expr)
    (counts : ∀ {low high : Expr} {first last : Date},
      low.Denotes server.interpretation frame (server.ofDay first) →
      high.Denotes server.interpretation frame (server.ofDay last) →
      server.HasDay first → server.HasDay last → first.dayNumber ≤ last.dayNumber →
      (count low high).Denotes server.interpretation frame
        (.int (first.workdaysAmong (last.dayNumber - first.dayNumber + 1).toNat)))
    (has : ∀ date ∈ a, server.HasDay date) (hasToo : ∀ date ∈ b, server.HasDay date)
    (isStart : start.Denotes server.interpretation frame (a.elim .null server.ofDay))
    (isFinish : finish.Denotes server.interpretation frame (b.elim .null server.ofDay)) :
    let total :=
      count (server.dialect.least [start, finish]) (server.dialect.greatest [start, finish])
    (Expr.caseWhen [⟨start.isNull.or finish.isNull, .null⟩]
      (some ((Expr.ite (finish.lt start) (- total) total).cast .double))).Denotes
      server.interpretation frame
      ((Option.map₂ Date.workdaysBetween a b).elim .null fun n => .real n) := by
  refine .caseCons (denotes_or (denotes_isNull isStart) (denotes_isNull isFinish)) ?_ ?_
  · intro null
    cases a with
    | none => exact .null
    | some a =>
      cases b with
      | none => exact .null
      | some b =>
        rw [Option.elim_some, Option.elim_some, isNull_ofDay, isNull_ofDay] at null
        simp at null
  · intro filled
    cases a with
    | none => exact absurd (.inl rfl) filled
    | some a =>
      cases b with
      | none => exact absurd (.inr rfl) filled
      | some b =>
        have hasA := has a rfl
        have hasB := hasToo b rfl
        obtain ⟨low, high⟩ := denotes_ordered isStart isFinish hasA hasB
        refine .caseNil (denotes_castDouble (n := a.workdaysBetween b) ?_)
        rw [Date.workdaysBetween]
        refine .ite (denotes_less (before?_ofDay hasB hasA) isFinish isStart) ?_ ?_
        · intro back
          rw [if_pos back] at low high ⊢
          rw [← Int.zero_sub]
          exact .unary (counts low high hasB hasA back.le) rfl
        · intro forward
          rw [if_neg forward] at low high ⊢
          exact counts low high hasA hasB (Int.not_lt.1 forward)

theorem denotes_workdaySpan (has : ∀ date ∈ a, server.HasDay date)
    (hasToo : ∀ date ∈ b, server.HasDay date)
    (isStart : start.Denotes server.interpretation frame (a.elim .null server.ofDay))
    (isFinish : finish.Denotes server.interpretation frame (b.elim .null server.ofDay)) :
    (Call.workdaySpan server.dialect start finish).Denotes server.interpretation frame
      ((Option.map₂ Date.workdaysBetween a b).elim .null fun n => .real n) := by
  unfold Call.workdaySpan
  split
  · next postgres =>
      exact denotes_span
        (fun low high => Call.businessDays server.dialect
          ((Expr.extract "ISODOW" low).cast .integer) (high - low + 1))
        (fun isLow isHigh has _ => denotes_count_postgres isLow isHigh postgres has) has hasToo
        isStart isFinish
  · next sqlite =>
      exact denotes_span
        (fun low high => Call.businessDays server.dialect
          (isoWeekday (.call "strftime" [.text "%w", low]))
          ((Expr.call "julianday" [high] - .call "julianday" [low]).cast .integer + 1))
        (fun isLow isHigh => denotes_count_sqlite isLow isHigh sqlite) has hasToo isStart isFinish

structure Call.IsWorkdayDiff (call : Call) (server : Server) (frame : Frame Item)
    (start finish : Option Stamp) : Prop where
  dialect : server.dialect = call.dialect
  operation : call.operation = .workdayDiff
  accepted : Target.check call.operation call.args call.hints = .ok ()
  start : (call.moment 0).Shows server frame start
  finish : (call.moment 1).Shows server frame finish

theorem denotes_workdayDiff {call : Call} (isDiff : call.IsWorkdayDiff server frame s f) :
    call.workdayDiff.Denotes server.interpretation frame
      ((Option.map₂ Date.workdaysBetween (s.map Stamp.date) (f.map Stamp.date)).elim .null
        fun n => .real n) := by
  have has : ∀ {moment : Moment} {time : Option Stamp}, moment.Shows server frame time →
      ∀ date ∈ time.map Stamp.date, server.HasDay date := by
    intro moment time shows date member
    obtain ⟨stamp, rfl, rfl⟩ := Option.map_eq_some_iff.1 member
    exact shows.hasTime.day
  unfold Call.workdayDiff
  rw [← isDiff.dialect]
  cases dialect : server.dialect with
  | postgres =>
    have span := denotes_workdaySpan (has isDiff.start) (has isDiff.finish)
      (denotes_wallDay dialect isDiff.start) (denotes_wallDay dialect isDiff.finish)
    rwa [dialect] at span
  | sqlite =>
    have span := denotes_workdaySpan (has isDiff.start) (has isDiff.finish)
      (denotes_day dialect isDiff.start) (denotes_day dialect isDiff.finish)
    rwa [dialect] at span

theorem render_workdayDiff {call : Call} (isDiff : call.IsWorkdayDiff server frame s f) :
    call.target.render call.job "WORKDAY_DIFF" call.args call.hints =
      .ok (call.workdayDiff.print call.dialect) := by
  have named : Operation.ofName? "WORKDAY_DIFF" = some .workdayDiff := by decide +kernel
  have compiled : call.compile = .ok call.workdayDiff := by
    unfold Call.compile Call.own? Call.shared
    rw [isDiff.operation]
  rw [← isDiff.operation] at named
  exact render_of_compile named isDiff.accepted compiled

/--
The working days among days in a row are those that the calendar has. So the working days between
two days are counted, with the sign of the direction, and there is no number only if there is no
day.
-/
theorem workdays_are_counted (server : Server) (frame : Frame Item) :
    (∀ {weekday days : Expr} {dow : Int} {n : Nat}, 1 ≤ dow → dow ≤ 7 →
      weekday.Denotes server.interpretation frame (.int dow) →
      days.Denotes server.interpretation frame (.int n) →
      ∃ count : Int,
        (Call.businessDays server.dialect weekday days).Denotes server.interpretation frame
          (.int count) ∧
        (∃ date : Date, date.IsReal ∧ date.weekday = dow) ∧
        ∀ date : Date, date.IsReal → date.weekday = dow → date.workdaysAmong n = count) ∧
    (∀ (call : Call) (start finish : Option Stamp),
      call.IsWorkdayDiff server frame start finish →
      ∃ (e : Expr) (item : Item),
        call.target.render call.job "WORKDAY_DIFF" call.args call.hints =
          .ok (e.print call.dialect) ∧
        e.Denotes server.interpretation frame item ∧
        (item.isNull = true ↔ start = none ∨ finish = none) ∧
        ∀ s ∈ start, ∀ f ∈ finish, item = .real (s.date.workdaysBetween f.date)) ∧
    ∀ (call back : Call) (s f : Stamp), call.IsWorkdayDiff server frame (some s) (some f) →
      back.IsWorkdayDiff server frame (some f) (some s) → s.date ≠ f.date →
      ∃ (there again : Expr) (n : Int),
        call.target.render call.job "WORKDAY_DIFF" call.args call.hints =
          .ok (there.print call.dialect) ∧
        back.target.render back.job "WORKDAY_DIFF" back.args back.hints =
          .ok (again.print back.dialect) ∧
        there.Denotes server.interpretation frame (.real n) ∧
        again.Denotes server.interpretation frame (.real (-n : Int)) := by
  refine ⟨?_, ?_, ?_⟩
  · intro weekday days dow n first last isWeekday isDays
    refine ⟨_, denotes_businessDays isWeekday isDays (Int.natCast_nonneg n),
      Date.exists_weekday first last, ?_⟩
    intro date real same
    rw [Date.workdaysAmong_eq real, same]
  · intro call start finish isDiff
    refine ⟨_, _, render_workdayDiff isDiff, denotes_workdayDiff isDiff, ?_, ?_⟩
    · cases start with
      | none => exact ⟨fun _ => .inl rfl, fun _ => rfl⟩
      | some s =>
        cases finish with
        | none => exact ⟨fun _ => .inr rfl, fun _ => rfl⟩
        | some f =>
          refine ⟨fun null => absurd null Bool.false_ne_true, ?_⟩
          rintro (missing | missing) <;> cases missing
    · rintro s rfl f rfl
      rfl
  · intro call back s f isDiff isBack apart
    have swapped := Date.workdaysBetween_swap isBack.start.hasTime.1.isReal
      isDiff.start.hasTime.1.isReal apart.symm
    refine ⟨_, _, _, render_workdayDiff isDiff, render_workdayDiff isBack,
      denotes_workdayDiff isDiff, ?_⟩
    rw [← swapped]
    exact denotes_workdayDiff isBack

end

def daysOpen (start finish : String) : Call :=
  { job := .ofCatalog
      (.ofFields [.ofStorage "fld1" "opened" .datetime, .ofStorage "fld2" "closed" .datetime]) ⟨0, 0⟩
    target := ⟨.postgres, .select⟩
    operation := .workdayDiff
    args := [start, finish]
    hints := [] }

def openRow : Server :=
  .ofDays .postgres fun sql =>
    .other (if sql = "\"opened\"" then "2024-01-05" else "2024-01-09").toList

theorem daysOpen_isWorkdayDiff :
    (daysOpen "\"opened\"" "\"closed\"").IsWorkdayDiff openRow .empty (some ⟨⟨2024, 1, 5⟩, 0⟩)
        (some ⟨⟨2024, 1, 9⟩, 0⟩) ∧
      (daysOpen "\"closed\"" "\"opened\"").IsWorkdayDiff openRow .empty
        (some ⟨⟨2024, 1, 9⟩, 0⟩) (some ⟨⟨2024, 1, 5⟩, 0⟩) := by
  have opened : ∀ clock : WallClock, Moment.Shows openRow .empty ⟨.fragment "\"opened\"", clock⟩
      (some ⟨⟨2024, 1, 5⟩, 0⟩) := fun clock => ⟨.other "2024-01-05".toList, .fragment _, rfl⟩
  have closed : ∀ clock : WallClock, Moment.Shows openRow .empty ⟨.fragment "\"closed\"", clock⟩
      (some ⟨⟨2024, 1, 9⟩, 0⟩) := fun clock => ⟨.other "2024-01-09".toList, .fragment _, rfl⟩
  exact ⟨⟨rfl, rfl, rfl, opened _, closed _⟩, ⟨rfl, rfl, rfl, closed _, opened _⟩⟩

theorem workdays_are_counted_open :
    (∃ count : Int,
      (Call.businessDays .postgres 6 10).Denotes openRow.interpretation .empty (.int count) ∧
      Date.workdaysAmong ⟨2024, 1, 6⟩ 10 = count) ∧
    (∃ e : Expr,
      Target.render ⟨.postgres, .select⟩ (daysOpen "\"opened\"" "\"closed\"").job "WORKDAY_DIFF"
        ["\"opened\"", "\"closed\""] [] = .ok (e.print .postgres) ∧
      e.Denotes openRow.interpretation .empty (.real (3 : Int))) ∧
    ∃ (there again : Expr) (n : Int),
      Target.render ⟨.postgres, .select⟩ (daysOpen "\"opened\"" "\"closed\"").job "WORKDAY_DIFF"
        ["\"opened\"", "\"closed\""] [] = .ok (there.print .postgres) ∧
      Target.render ⟨.postgres, .select⟩ (daysOpen "\"closed\"" "\"opened\"").job "WORKDAY_DIFF"
        ["\"closed\"", "\"opened\""] [] = .ok (again.print .postgres) ∧
      there.Denotes openRow.interpretation .empty (.real n) ∧
      again.Denotes openRow.interpretation .empty (.real (-n : Int)) := by
  obtain ⟨isDiff, isBack⟩ := daysOpen_isWorkdayDiff
  obtain ⟨among, between, swapped⟩ := workdays_are_counted openRow .empty
  refine ⟨?_, ?_, swapped _ _ _ _ isDiff isBack (by decide)⟩
  · obtain ⟨count, counted, -, same⟩ :=
      among (by decide) (by decide) (denotes_nat 6) (denotes_nat 10)
    exact ⟨count, counted, same _ (by decide) (by decide)⟩
  · obtain ⟨e, item, rendered, value, -, number⟩ := between _ _ _ isDiff
    have three : Date.workdaysBetween ⟨2024, 1, 5⟩ ⟨2024, 1, 9⟩ = 3 := by decide
    rw [number _ rfl _ rfl, three] at value
    exact ⟨e, rendered, value⟩

end SheetSql
