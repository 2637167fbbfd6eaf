import SheetSql.Compile.Duration
import SheetSql.Compile.Workday
import SheetSql.Proofs.Outcome.Text

namespace SheetSql

/-!
Like calls compile to like moments that obey the rule of their target, and so do the parts and
differences of these.
-/

open Coerce

attribute [local simp] Expr.operator_eq

variable {terms : Terms} {dialect : Dialect} {placement : Placement}

/-- Like moments that obey a rule and are not the constant for the present. -/
structure Moment.Sound (terms : Terms) (target : Target) (moment moment' : Moment) : Prop where
  value : terms.Sound target moment.value moment'.value
  apart : moment.value.isNow = false
  clock : moment'.clock = moment.clock

attribute [local simp] WallClock.zoneText WallClock.ahead WallClock.back Instant.literal isoWeekday

/-- A time stamp that was moved to a zone has none any more, and is cut without its help. -/
@[simp] theorem node_date_trunc (moment : Moment) :
    (Rule.emitted ⟨.postgres, placement⟩ stable).node (.call "date_trunc" [unit, moment.wall]) =
      true := by
  have free : isFree "date_trunc" = true := by decide
  have cut : isImmutable "date_trunc" [unit, moment.wall] = true := by
    simp [isImmutable, Moment.wall, Expr.isAtTimeZone]
  simp [node_of_isFree free, cut]

namespace Moment.Sound

section

variable {moment moment' : Moment} (same : Sound terms ⟨.postgres, placement⟩ moment moment')

include same

theorem wall : terms.Sound ⟨.postgres, placement⟩ moment.wall moment'.wall := by
  simp [Moment.wall, same.clock, same.value]

theorem field (word : isFunctionName name = true) :
    terms.Sound ⟨.postgres, placement⟩ (moment.field name) (moment'.field name) := by
  simp [Moment.field, word, same.wall]

end

section

variable {moment moment' : Moment} (same : Sound terms ⟨.sqlite, placement⟩ moment moment')

include same

theorem shown (format : String) :
    terms.Sound ⟨.sqlite, placement⟩ (moment.shown format) (moment'.shown format) := by
  simp +decide [Moment.shown, same.clock, same.value, same.apart]

theorem day (moves : List String) :
    terms.Sound ⟨.sqlite, placement⟩ (moment.day moves) (moment'.day moves) := by
  simp +decide [Moment.day, same.clock, same.value, same.apart, allAlike_texts]

end

end Moment.Sound

namespace Call

variable {call call' : Call}

theorem liveNow_sound : terms.Sound ⟨dialect, .select⟩ (liveNow dialect) (liveNow dialect) := by
  cases dialect <;> simp +decide [liveNow]

theorem liveToday_sound :
    terms.Sound ⟨dialect, .select⟩ (liveToday dialect clock) (liveToday dialect clock) := by
  cases dialect <;> simp +decide [liveToday, liveNow]

section

variable {start start' finish finish' moment moment' : Moment} {amount amount' : Expr}
  (first : Moment.Sound terms ⟨dialect, placement⟩ start start')
  (last : Moment.Sound terms ⟨dialect, placement⟩ finish finish')
  (same : Moment.Sound terms ⟨dialect, placement⟩ moment moment')
  (given : terms.Sound ⟨dialect, placement⟩ amount amount')

include same in
theorem intoMonth_sound :
    terms.Sound ⟨dialect, placement⟩ (intoMonth dialect moment) (intoMonth dialect moment') := by
  cases dialect with
  | postgres => simp +decide [intoMonth, same.wall]
  | sqlite => exact same.shown _

include same in
theorem truncated_sound (unit : TimeUnit) :
    terms.Sound ⟨dialect, placement⟩ (truncated dialect moment unit)
      (truncated dialect moment' unit) := by
  cases dialect with
  | postgres => simp +decide [truncated, same.wall]
  | sqlite =>
    cases unit with
    | quarter => simp +decide [truncated, truncationKey, same.shown]
    | week => exact same.day _
    | _ => exact same.shown _

section

include first last

theorem elapsed_sound (millis : Nat) :
    terms.Sound ⟨dialect, placement⟩ (elapsed dialect start finish millis)
      (elapsed dialect start' finish' millis) := by
  cases dialect <;>
    simp +decide [elapsed, first.value, first.apart, last.value, last.apart]

theorem monthsApart_sound :
    terms.Sound ⟨dialect, placement⟩ (monthsApart dialect start finish)
      (monthsApart dialect start' finish') := by
  have year : isFunctionName "YEAR" = true := by decide
  have month : isFunctionName "MONTH" = true := by decide
  cases dialect with
  | postgres =>
    simp +decide [monthsApart, first.field year, first.field month, last.field year,
      last.field month]
  | sqlite => simp +decide [monthsApart, first.shown, last.shown]

theorem calendarDifference_sound (factor : Nat) :
    terms.Sound ⟨dialect, placement⟩ (calendarDifference dialect start finish factor)
      (calendarDifference dialect start' finish' factor) := by
  have whole : terms.Sound ⟨dialect, placement⟩
      (wholeMonths (monthsApart dialect start finish) (intoMonth dialect start)
        (intoMonth dialect finish))
      (wholeMonths (monthsApart dialect start' finish') (intoMonth dialect start')
        (intoMonth dialect finish')) := by
    simp +decide [wholeMonths, monthsApart_sound first last, intoMonth_sound first,
      intoMonth_sound last]
  unfold calendarDifference
  dsimp only
  split <;> simp +decide [whole]

theorem difference_sound (unit : TimeUnit) :
    terms.Sound ⟨dialect, placement⟩ (difference dialect start finish unit)
      (difference dialect start' finish' unit) := by
  unfold difference
  dsimp only
  split
  · exact elapsed_sound first last _
  · exact calendarDifference_sound first last _

end

theorem isNumberText_text (factor : Factor) : isNumberText factor.text = true := by
  cases factor with
  | times n => exact isNumberText_repr n
  | thousandth => decide

section

include same given

theorem shiftSeconds_sound :
    terms.Sound ⟨dialect, placement⟩ (shiftSeconds dialect moment amount)
      (shiftSeconds dialect moment' amount') := by
  cases dialect with
  | postgres =>
    simp +decide [shiftSeconds, shiftPostgres, unlessBeyond, maxShiftSeconds, interval,
      same.clock, same.wall, given]
  | sqlite =>
    simp +decide [shiftSeconds, unlessBeyond, maxShiftSeconds, same.value, same.apart, given]

theorem shiftMonths_sound :
    terms.Sound ⟨dialect, placement⟩ (shiftMonths dialect moment amount)
      (shiftMonths dialect moment' amount') := by
  cases dialect with
  | postgres =>
    simp +decide [shiftMonths, shiftPostgres, unlessBeyond, maxShiftMonths, interval,
      same.clock, same.wall, given]
  | sqlite =>
    simp +decide [shiftMonths, unlessBeyond, maxShiftMonths, same.clock, same.value, same.apart,
      given]

theorem shift_sound (unit : TimeUnit) :
    terms.Sound ⟨dialect, placement⟩ (shift dialect moment amount unit)
      (shift dialect moment' amount' unit) := by
  have counted : ∀ factor : Factor,
      terms.Sound ⟨dialect, placement⟩ (scaled amount factor) (scaled amount' factor) := by
    intro factor
    unfold scaled
    split <;> simp +decide [isNumberText_text, given]
  unfold shift
  dsimp only
  split
  · exact shiftSeconds_sound same (by simp +decide [counted])
  · refine shiftMonths_sound same ?_
    split <;> simp +decide [counted]

end

end

section

variable {start start' finish finish' : Expr}
  (first : terms.Sound ⟨dialect, placement⟩ start start')
  (second : terms.Sound ⟨dialect, placement⟩ finish finish')

include first second

theorem workdaySpan_sound :
    terms.Sound ⟨dialect, placement⟩ (workdaySpan dialect start finish)
      (workdaySpan dialect start' finish') := by
  cases dialect <;> simp +decide [workdaySpan, businessDays, first, second]

end

theorem unit_ends (fault : call.has i = true → terms.allows (call.fault i .notText)) :
    Agree Eq terms.allows (call.unit i) (call.unit i) :=
  (textLiteralOr_ends fault).same fun _ => .ok rfl

section

variable (fits : call.Fits terms call')

include fits

theorem moment_sound (i : Nat) :
    Moment.Sound terms call.target (call.moment i) (call'.moment i) :=
  ⟨datetime_sound fits i, Site.isNow_toDatetime (operand_fits fits i), clock_eq fits i⟩

theorem frozenNow_sound : terms.Sound call.target call.frozenNow call'.frozenNow := by
  rw [frozenNow, frozenNow, fits.site]
  simp

theorem frozenToday_sound : terms.Sound call.target call.frozenToday call'.frozenToday := by
  rw [frozenToday, frozenToday, fits.site]
  simp

theorem now_sound : Moment.Sound terms call.target call.now call'.now := by
  have frozen := frozenNow_sound fits
  rw [now, now, dialect_eq fits, jobClock_eq fits, fits.site]
  cases placement : call.target.placement with
  | select =>
    refine ⟨?_, by cases call.dialect <;> rfl, rfl⟩
    rw [Site.target_select placement]
    exact liveNow_sound
  | generated => exact ⟨frozen, rfl, rfl⟩

theorem part_sound (word : isFunctionName field = true) (format : String) :
    terms.Sound call.target (call.part field format) (call'.part field format) := by
  have same := moment_sound fits 0
  rw [part, part, dialect_eq fits]
  cases dialect : call.dialect with
  | postgres =>
    rw [Site.target_of_dialect dialect] at same ⊢
    simp +decide [same.field word]
  | sqlite =>
    rw [Site.target_of_dialect dialect] at same ⊢
    simp +decide [same.shown]

theorem second_sound : terms.Sound call.target call.second call'.second := by
  have same := moment_sound fits 0
  have seconds : isFunctionName "SECOND" = true := by decide
  rw [second, second, dialect_eq fits]
  cases dialect : call.dialect with
  | postgres =>
    rw [Site.target_of_dialect dialect] at same ⊢
    simp +decide [same.field seconds]
  | sqlite =>
    rw [Site.target_of_dialect dialect] at same ⊢
    simp +decide [same.shown]

theorem weekNum_sound : terms.Sound call.target call.weekNum call'.weekNum := by
  have same := moment_sound fits 0
  have week : isFunctionName "WEEK" = true := by decide
  rw [weekNum, weekNum, dialect_eq fits]
  cases dialect : call.dialect with
  | postgres =>
    rw [Site.target_of_dialect dialect] at same ⊢
    simp +decide [same.field week]
  | sqlite =>
    rw [Site.target_of_dialect dialect] at same ⊢
    have thursday := same.day ["-3 days", "weekday 4"]
    have apart : ((call.moment 0).day ["-3 days", "weekday 4"]).isNow = false := rfl
    simp +decide [thursday, apart]

theorem weekday_keeps (fault : call.has 1 = true → ∀ fault, terms.allows (call.fault 1 fault)) :
    call.Keeps terms call.weekday call'.weekday := by
  have start : Agree Eq terms.allows call.weekStartsMonday call.weekStartsMonday := by
    unfold Call.weekStartsMonday
    split
    · refine (textLiteral_ends (fault ‹_› _)).same fun _ => ?_
      dsimp only
      split
      · exact .ok rfl
      · split
        · exact .ok rfl
        · exact .error (fault ‹_› _)
    · exact .ok rfl
  have fromMonday : call'.weekStartsMonday = call.weekStartsMonday := by
    rw [weekStartsMonday, weekStartsMonday, has_eq fits, textLiteral_eq fits, fault_eq fits]
  have name : isFunctionName "DOW" = true := by decide
  have sunday := part_sound fits name "%w"
  have same := moment_sound fits 0
  have word : isFunctionName "ISODOW" = true := by decide
  rw [weekday, weekday, fromMonday, dialect_eq fits]
  refine start.same fun monday => ?_
  cases monday with
  | false => exact .ok sunday
  | true =>
    cases dialect : call.dialect with
    | postgres =>
      refine .ok ?_
      rw [Site.target_of_dialect dialect] at same ⊢
      simp +decide [same.field word]
    | sqlite => exact .ok (by simp +decide [sunday])

theorem unit_eq (i : Nat) : call'.unit i = call.unit i := by
  rw [unit, unit, textLiteralOr_eq fits]

theorem datetimeDiff_keeps (fault : call.has 2 = true → terms.allows (call.fault 2 .notText)) :
    call.Keeps terms call.datetimeDiff call'.datetimeDiff := by
  rw [datetimeDiff, datetimeDiff, dialect_eq fits, unit_eq fits]
  exact (unit_ends fault).same fun unit =>
    .ok (difference_sound (moment_sound fits 0) (moment_sound fits 1) unit)

theorem fromNow_keeps (fault : call.has 1 = true → terms.allows (call.fault 1 .notText)) :
    call.Keeps terms call.fromNow call'.fromNow := by
  rw [fromNow, fromNow, dialect_eq fits, unit_eq fits]
  refine (unit_ends fault).same fun unit => .ok ?_
  have apart : terms.Sound call.target (difference call.dialect call.now (call.moment 0) unit)
      (difference call.dialect call'.now (call'.moment 0) unit) :=
    difference_sound (now_sound fits) (moment_sound fits 0) unit
  simp +decide [apart]

theorem dateAdd_keeps (fault : terms.allows (call.fault 2 .notText)) :
    call.Keeps terms call.dateAdd call'.dateAdd := by
  rw [dateAdd, dateAdd, dialect_eq fits, textLiteral_eq fits]
  exact (textLiteral_ends fault).same fun _ => (numberOrZero_keeps fits 1).bind fun amount =>
    .ok (shift_sound (moment_sound fits 0) amount _)

theorem dateRelation_keeps {op : BinOp} (common : op.isCommon = true)
    (fault : call.has 2 = true → terms.allows (call.fault 2 .notText)) :
    call.Keeps terms (call.dateRelation op) (call'.dateRelation op) := by
  have paired : ∀ {one one' other other' : Expr}, terms.Sound call.target one one' →
      terms.Sound call.target other other' →
        terms.Sound call.target (.binary one op other) (.binary one' op other') := by
    intro one one' other other' first second
    simp [common, first, second]
  rw [dateRelation, dateRelation, has_eq fits, dialect_eq fits, textLiteral_eq fits]
  split
  · exact (textLiteral_ends (fault ‹_›)).same fun _ => .ok (paired
      (truncated_sound (moment_sound fits 0) _) (truncated_sound (moment_sound fits 1) _))
  · exact .ok (paired (datetime_sound fits 0) (datetime_sound fits 1))

theorem workdays_keeps (i : Nat) : call.Keeps terms (call.workdays i) (call'.workdays i) := by
  rw [workdays, workdays, dialect_eq fits]
  exact (numberOrZero_keeps fits i).bind fun number => .ok (boundedInt_sound number)

theorem workday_keeps (fault : call.has 2 = true → terms.allows (call.fault 2 .holidays)) :
    call.Keeps terms call.workday call'.workday := by
  have same := moment_sound fits 0
  have word : isFunctionName "ISODOW" = true := by decide
  rw [workday, workday, has_eq fits, dialect_eq fits, fault_eq fits]
  split
  · exact .error (fault ‹_›)
  · refine (workdays_keeps fits 1).bind fun n => ?_
    cases dialect : call.dialect with
    | postgres =>
      refine .ok ?_
      rw [Site.target_of_dialect dialect] at same n ⊢
      simp +decide [workdayShift, interval, same.field word, same.wall, same.clock, n]
    | sqlite =>
      refine .ok ?_
      rw [Site.target_of_dialect dialect] at same n ⊢
      simp +decide [workdayShift, same.shown, same.value, same.apart, n]

theorem workdayDiff_sound : terms.Sound call.target call.workdayDiff call'.workdayDiff := by
  have first := moment_sound fits 0
  have second := moment_sound fits 1
  rw [workdayDiff, workdayDiff, dialect_eq fits]
  cases dialect : call.dialect with
  | postgres =>
    rw [Site.target_of_dialect dialect] at first second ⊢
    exact workdaySpan_sound (by simp +decide [first.wall]) (by simp +decide [second.wall])
  | sqlite =>
    rw [Site.target_of_dialect dialect] at first second ⊢
    exact workdaySpan_sound (first.day []) (second.day [])

end

end Call

end SheetSql
