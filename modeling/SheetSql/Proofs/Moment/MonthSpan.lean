import Mathlib.Data.Prod.Lex
import SheetSql.Compile.Duration
import SheetSql.Proofs.Moment.LocalTime

namespace SheetSql

/-! Whole months between two moments. -/

/-- The number of a month and how far a time is into it, in the order of time. -/
abbrev MonthPlace : Type := ℤ ×ₗ ℚ

namespace MonthPlace

def later (place : MonthPlace) (months : ℤ) : MonthPlace :=
  toLex ((ofLex place).1 + months, (ofLex place).2)

def monthsApart (start finish : MonthPlace) : ℤ := (ofLex start).1 - (ofLex finish).1

def wholeMonths (start finish : MonthPlace) : ℤ :=
  if 0 < start.monthsApart finish ∧ (ofLex start).2 < (ofLex finish).2 then
    start.monthsApart finish - 1
  else if start.monthsApart finish < 0 ∧ (ofLex finish).2 < (ofLex start).2 then
    start.monthsApart finish + 1
  else start.monthsApart finish

theorem wholeMonths_swap (start finish : MonthPlace) :
    finish.wholeMonths start = -start.wholeMonths finish := by
  unfold wholeMonths monthsApart
  rcases lt_trichotomy (ofLex start).2 (ofLex finish).2 with less | same | more
  · simp only [less, less.not_gt, and_true, and_false, if_false]
    split_ifs <;> omega
  · simp only [same, lt_irrefl, and_false, if_false]
    omega
  · simp only [more, more.not_gt, and_true, and_false, if_false]
    split_ifs <;> omega

/-- The most months after `finish` that do not pass `start`, which is not before it. -/
theorem wholeMonths_isGreatest {start finish : MonthPlace} (le : finish ≤ start) :
    0 ≤ start.wholeMonths finish ∧
      IsGreatest {k : ℤ | finish.later k ≤ start} (start.wholeMonths finish) := by
  have within : ∀ k : ℤ, finish.later k ≤ start ↔
      (ofLex finish).1 + k < (ofLex start).1 ∨
        (ofLex finish).1 + k = (ofLex start).1 ∧ ¬(ofLex start).2 < (ofLex finish).2 := by
    intro k
    rw [Prod.Lex.le_iff, not_lt]
    rfl
  have first := (within 0).1 (by rwa [later, add_zero])
  -- What is left is about months alone once it is known which time is further into its month.
  simp only [IsGreatest, upperBounds, Set.mem_ofPred_eq, within]
  unfold wholeMonths monthsApart
  by_cases less : (ofLex start).2 < (ofLex finish).2
  · simp only [less, less.not_gt, not_true, and_true, and_false, or_false, if_false] at first ⊢
    rw [if_pos (by omega)]
    exact ⟨by omega, by omega, fun k bound => by omega⟩
  · simp only [less, not_false_eq_true, and_true, and_false, if_false] at first ⊢
    rw [if_neg (by omega)]
    exact ⟨by omega, by omega, fun k bound => by omega⟩

end MonthPlace

open Server

def Server.yearOf (server : Server) (date : Date) : Int :=
  match server.dialect with
  | .postgres => yearNumber date.year
  | .sqlite => date.year

def Server.place (server : Server) (stamp : Stamp) : MonthPlace :=
  toLex (server.yearOf stamp.date * 12 + stamp.date.month, stamp.intoMonth)

def Server.intoMonth (server : Server) (stamp : Stamp) : Item :=
  match server.dialect with
  | .postgres => .real stamp.intoMonth
  | .sqlite => .text stamp.intoMonthText

section

variable {server : Server} {frame : Frame Item} {start finish moment : Moment} {a b stamp : Stamp}

theorem denotes_field (field : String) (postgres : server.dialect = .postgres)
    (shows : moment.Shows server frame (some stamp)) (known : dayField stamp.date field = some q) :
    (moment.field field).Denotes server.interpretation frame (.real q) := by
  refine .extract (denotes_wall postgres shows) ?_
  change (dayField stamp.date field).map Item.real = _
  rw [known, Option.map_some]

theorem denotes_shownNumber (format : String) (width n : Nat) (sqlite : server.dialect = .sqlite)
    (shows : moment.Shows server frame (some stamp))
    (isShown : stamp.shown? format.toList = some (Chars.digits width n)) (fits : n < 10 ^ width)
    (small : n ≤ 9999) :
    ((moment.shown format).cast .integer).Denotes server.interpretation frame (.int n) := by
  have number := denotes_castWhole sqlite (denotes_shown sqlite shows isShown)
  rwa [Value.castWhole_digits fits small] at number

theorem denotes_intoMonth (shows : moment.Shows server frame (some stamp)) :
    (Call.intoMonth server.dialect moment).Denotes server.interpretation frame
      (server.intoMonth stamp) := by
  unfold Server.intoMonth
  cases dialect : server.dialect with
  | postgres =>
    have wall := denotes_wall dialect shows
    have first : (Expr.call "date_trunc" [.text "month", moment.wall]).Denotes
        server.interpretation frame (.stamp ⟨⟨stamp.date.year, stamp.date.month, 1⟩, 0⟩) :=
      .call (by decide) (.cons (denotes_text "month") (.cons wall .nil)) rfl
    have days : stamp.date.dayNumber -
        Date.dayNumber ⟨stamp.date.year, stamp.date.month, 1⟩ = stamp.date.day - 1 := by
      simp only [Date.dayNumber]
      omega
    have into : ((stamp.date.dayNumber : ℚ) -
        Date.dayNumber ⟨stamp.date.year, stamp.date.month, 1⟩) * 86400 + (stamp.seconds - 0) =
          stamp.intoMonth := by
      rw [← Int.cast_sub, days, sub_zero, Stamp.intoMonth]
      push_cast
      rfl
    exact .extract (.binary wall first (congrArg (some ∘ Item.span) into)) rfl
  | sqlite => exact denotes_shown dialect shows stamp.shown?_intoMonth

theorem before?_intoMonth (first : server.HasTime a) (second : server.HasTime b) :
    (server.intoMonth a).before? server.dialect (server.intoMonth b) =
      some (some (decide ((ofLex (server.place a)).2 < (ofLex (server.place b)).2))) := by
  unfold Server.intoMonth
  split
  · rfl
  · next sqlite =>
      rw [Item.before?, if_pos sqlite,
        Stamp.before_intoMonthText (first.2 sqlite) (second.2 sqlite)]
      rfl

section

variable (isStart : start.Shows server frame (some a))
  (isFinish : finish.Shows server frame (some b))

include isStart isFinish

theorem denotes_monthsApart_postgres (postgres : server.dialect = .postgres) :
    (Call.monthsApart .postgres start finish).Denotes server.interpretation frame
      (.int ((server.place a).monthsApart (server.place b))) := by
  have years : (start.field "YEAR" - finish.field "YEAR").Denotes server.interpretation frame
      (.real (yearNumber a.date.year - yearNumber b.date.year)) :=
    .binary (denotes_field "YEAR" postgres isStart rfl)
      (denotes_field "YEAR" postgres isFinish rfl) rfl
  have months : (start.field "MONTH" - finish.field "MONTH").Denotes server.interpretation frame
      (.real (a.date.month - b.date.month)) :=
    .binary (denotes_field "MONTH" postgres isStart rfl)
      (denotes_field "MONTH" postgres isFinish rfl) rfl
  refine denotes_castInteger postgres (.binary (.binary years (denotes_nat 12) rfl) months ?_)
  simp only [MonthPlace.monthsApart, place, yearOf, postgres, ofLex_toLex]
  push_cast
  rw [add_sub_add_comm, ← sub_mul]
  rfl

theorem denotes_monthsApart_sqlite (sqlite : server.dialect = .sqlite) :
    (Call.monthsApart .sqlite start finish).Denotes server.interpretation frame
      (.int ((server.place a).monthsApart (server.place b))) := by
  have year : ∀ {moment : Moment} {stamp : Stamp}, moment.Shows server frame (some stamp) →
      ((moment.shown "%Y").cast .integer).Denotes server.interpretation frame
        (.int stamp.date.year) := by
    intro moment stamp shows
    have shown := shows.hasTime.2 sqlite
    have nonneg := shown.year_nonneg
    have le := shown.year_le
    have number := denotes_shownNumber "%Y" 4 stamp.date.year.toNat sqlite shows rfl (by omega)
      (by omega)
    rwa [Int.toNat_of_nonneg nonneg] at number
  have month : ∀ {moment : Moment} {stamp : Stamp}, moment.Shows server frame (some stamp) →
      ((moment.shown "%m").cast .integer).Denotes server.interpretation frame
        (.int stamp.date.month) := by
    intro moment stamp shows
    have le := shows.hasTime.1.isReal.month_le
    exact denotes_shownNumber "%m" 2 _ sqlite shows rfl (by omega) (by omega)
  have apart := denotes_add
    (denotes_mul (denotes_sub (year isStart) (year isFinish)) (denotes_nat 12))
    (denotes_sub (month isStart) (month isFinish))
  simp only [MonthPlace.monthsApart, place, yearOf, sqlite, ofLex_toLex]
  rw [add_sub_add_comm, ← Int.sub_mul]
  exact apart

theorem denotes_monthsApart :
    (Call.monthsApart server.dialect start finish).Denotes server.interpretation frame
      (.int ((server.place a).monthsApart (server.place b))) := by
  cases dialect : server.dialect with
  | postgres => exact denotes_monthsApart_postgres isStart isFinish dialect
  | sqlite => exact denotes_monthsApart_sqlite isStart isFinish dialect

theorem denotes_wholeMonths :
    (Call.wholeMonths (Call.monthsApart server.dialect start finish)
      (Call.intoMonth server.dialect start) (Call.intoMonth server.dialect finish)).Denotes
      server.interpretation frame (.int ((server.place a).wholeMonths (server.place b))) := by
  have months := denotes_monthsApart isStart isFinish
  have startInto := denotes_intoMonth isStart
  have finishInto := denotes_intoMonth isFinish
  have before := denotes_less (before?_intoMonth isStart.hasTime isFinish.hasTime) startInto
    finishInto
  have after := denotes_greater (before?_intoMonth isFinish.hasTime isStart.hasTime) startInto
    finishInto
  have zero : Expr.Denotes server.interpretation frame 0 (.int 0) := denotes_nat 0
  unfold Call.wholeMonths MonthPlace.wholeMonths
  refine .caseCons (denotes_and (denotes_gt months zero) before) ?_ ?_
  · intro begun
    rw [if_pos begun]
    exact denotes_sub months (denotes_nat 1)
  · intro other
    rw [if_neg other]
    refine .caseCons (denotes_and (denotes_lt months zero) after) ?_ ?_
    · intro begun
      rw [if_pos begun]
      exact denotes_add months (denotes_nat 1)
    · intro whole
      rw [if_neg whole]
      exact .caseNil months

theorem denotes_calendarDifference (pos : 0 < factor) :
    (Call.calendarDifference server.dialect start finish factor).Denotes server.interpretation
      frame (.real (((server.place a).wholeMonths (server.place b)).tdiv factor : Int)) := by
  have whole := denotes_wholeMonths isStart isFinish
  refine denotes_castDouble ?_
  split
  · exact denotes_div whole (denotes_nat factor) (by omega)
  · have one : factor = 1 := by omega
    rwa [one, Nat.cast_one, Int.tdiv_one]

end

theorem denotes_difference {unit : TimeUnit} {factor : Nat}
    (calendar : (unit, factor) ∈ [(TimeUnit.month, 1), (.quarter, 3), (.year, 12)])
    (isStart : start.Shows server frame (some a)) (isFinish : finish.Shows server frame (some b)) :
    (Call.difference server.dialect start finish unit).Denotes server.interpretation frame
      (.real (((server.place a).wholeMonths (server.place b)).tdiv factor : Int)) := by
  simp only [List.mem_cons, Prod.mk.injEq, List.not_mem_nil, or_false] at calendar
  rcases calendar with ⟨rfl, rfl⟩ | ⟨rfl, rfl⟩ | ⟨rfl, rfl⟩
  · exact denotes_calendarDifference isStart isFinish (by decide)
  · exact denotes_calendarDifference isStart isFinish (by decide)
  · exact denotes_calendarDifference isStart isFinish (by decide)

/--
A difference in months, quarters or years counts the whole months that fit between two times on
their clocks. It changes its sign with the direction, and depends on nothing but where the times
are in their months.
-/
theorem difference_counts_months (server : Server) (frame : Frame Item) {start finish : Moment}
    {a b : Stamp} {unit : TimeUnit} {factor : Nat}
    (calendar : (unit, factor) ∈ [(TimeUnit.month, 1), (.quarter, 3), (.year, 12)])
    (isStart : start.Shows server frame (some a)) (isFinish : finish.Shows server frame (some b)) :
    ∃ n : ℤ,
      (Call.difference server.dialect start finish unit).Denotes server.interpretation frame
        (.real n) ∧
      (Call.difference server.dialect finish start unit).Denotes server.interpretation frame
        (.real (-n : ℤ)) ∧
      (server.place b ≤ server.place a →
        ∃ k, IsGreatest {k | (server.place b).later k ≤ server.place a} k ∧ n = k / factor) ∧
      (server.place a < server.place b →
        ∃ k, IsGreatest {k | (server.place a).later k ≤ server.place b} k ∧ n = -(k / factor)) ∧
      ∀ (other : Server) (inside : Frame Item) (first last : Moment) (c d : Stamp),
        first.Shows other inside (some c) → last.Shows other inside (some d) →
        other.place c = server.place a → other.place d = server.place b →
        (Call.difference other.dialect first last unit).Denotes other.interpretation inside
          (.real n) := by
  refine ⟨_, denotes_difference calendar isStart isFinish, ?_, ?_, ?_, ?_⟩
  · rw [← Int.neg_tdiv, ← MonthPlace.wholeMonths_swap]
    exact denotes_difference calendar isFinish isStart
  · intro le
    obtain ⟨nonneg, greatest⟩ := MonthPlace.wholeMonths_isGreatest le
    exact ⟨_, greatest, Int.tdiv_eq_ediv_of_nonneg nonneg⟩
  · intro lt
    obtain ⟨nonneg, greatest⟩ := MonthPlace.wholeMonths_isGreatest lt.le
    refine ⟨_, greatest, ?_⟩
    rw [← Int.tdiv_eq_ediv_of_nonneg nonneg, ← Int.neg_tdiv, ← MonthPlace.wholeMonths_swap]
  · intro other inside first last c d isFirst isLast sameStart sameFinish
    rw [← sameStart, ← sameFinish]
    exact denotes_difference calendar isFirst isLast

end

def columnMoment (name : String) : Moment := ⟨.fragment name, ⟨"UTC", 0⟩⟩

def monthEnds (dialect : Dialect) : Server :=
  .ofDays dialect fun sql =>
    let day := (if sql = "opened" then "2023-01-31" else "2024-03-30").toList
    match dialect with
    | .postgres => .other day
    | .sqlite => .text day

theorem monthEnds_shows (dialect : Dialect) :
    (columnMoment "closed").Shows (monthEnds dialect) .empty (some ⟨⟨2024, 3, 30⟩, 0⟩) ∧
      (columnMoment "opened").Shows (monthEnds dialect) .empty (some ⟨⟨2023, 1, 31⟩, 0⟩) := by
  cases dialect with
  | postgres =>
    exact ⟨⟨.other "2024-03-30".toList, .fragment _, rfl⟩,
      ⟨.other "2023-01-31".toList, .fragment _, rfl⟩⟩
  | sqlite =>
    exact ⟨⟨.text "2024-03-30".toList, .fragment _, rfl⟩,
      ⟨.text "2023-01-31".toList, .fragment _, rfl⟩⟩

/-- Two engines count the same quarters from the end of a January to the next but one March. -/
theorem difference_counts_months_quarters :
    ∃ n : ℤ,
      (Call.difference .postgres (columnMoment "closed") (columnMoment "opened") .quarter).Denotes
        (monthEnds .postgres).interpretation .empty (.real n) ∧
      (∃ k, IsGreatest {k | ((monthEnds .postgres).place ⟨⟨2023, 1, 31⟩, 0⟩).later k ≤
        (monthEnds .postgres).place ⟨⟨2024, 3, 30⟩, 0⟩} k ∧ n = k / (3 : Nat)) ∧
      (Call.difference .sqlite (columnMoment "closed") (columnMoment "opened") .quarter).Denotes
        (monthEnds .sqlite).interpretation .empty (.real n) := by
  have calendar : (TimeUnit.quarter, 3) ∈ [(TimeUnit.month, 1), (.quarter, 3), (.year, 12)] := by
    decide
  obtain ⟨isStart, isFinish⟩ := monthEnds_shows .postgres
  obtain ⟨isFirst, isLast⟩ := monthEnds_shows .sqlite
  obtain ⟨n, there, -, counted, -, alike⟩ :=
    difference_counts_months _ _ calendar isStart isFinish
  refine ⟨n, there, counted ?_, alike _ _ _ _ _ _ isFirst isLast rfl rfl⟩
  exact (Prod.Lex.lt_iff.2 (.inl (by decide))).le

end SheetSql
