import SheetSql.Proofs.Outcome.WellFormed

namespace SheetSql

/-! The same call at another present. -/

open Coerce

def Operation.readsPresent : Operation → Bool
  | .now | .today | .fromNow | .toNow => true
  | _ => false

def Job.atTime (job : Job) (now : Instant) : Job := { job with now }

/-- Whether all zones that a job can come across have the same offset at another present. -/
def Job.SameOffsets (job : Job) (now : Instant) : Prop :=
  ∀ zone, (zone = job.zone ∨ ∃ name, Zone.named? name = some zone) →
    zone.offsetMinutes now = zone.offsetMinutes job.now

theorem Job.zoneOf_atTime (job : Job) (now : Instant) (field : Option Field) :
    (job.atTime now).zoneOf field = job.zoneOf field := by
  unfold Job.zoneOf
  rfl

theorem Job.zoneOf_cases (job : Job) (field : Option Field) :
    job.zoneOf field = job.zone ∨ ∃ name, Zone.named? name = some (job.zoneOf field) := by
  unfold Job.zoneOf
  cases named : ((field.bind (·.formatting)).bind (·.timeZone)) with
  | none => exact .inl rfl
  | some name =>
    cases known : Zone.named? name with
    | none =>
      rw [Option.bind_some, known]
      exact .inl rfl
    | some zone =>
      rw [Option.bind_some, known]
      exact .inr ⟨name, known⟩

def Moment.withMinutes (moment : Moment) (minutes : Int) : Moment :=
  { moment with clock := { moment.clock with minutes } }

namespace Site

def atTime (site : Site) (now : Instant) : Site := { site with job := site.job.atTime now }

variable {site : Site} {now : Instant} {operand : Operand}

@[simp] theorem target_atTime : (site.atTime now).target = site.target := rfl

@[simp] theorem operation_atTime : (site.atTime now).operation = site.operation := rfl

@[simp] theorem needSubquery_atTime : (site.atTime now).needSubquery = site.needSubquery := rfl

@[simp] theorem toNumber_atTime : (site.atTime now).toNumber = site.toNumber := rfl

@[simp] theorem toNumberOrZero_atTime :
    (site.atTime now).toNumberOrZero = site.toNumberOrZero := rfl

@[simp] theorem toText_atTime : (site.atTime now).toText = site.toText := rfl

@[simp] theorem toTextOrEmpty_atTime : (site.atTime now).toTextOrEmpty = site.toTextOrEmpty := rfl

@[simp] theorem toBool_atTime : (site.atTime now).toBool = site.toBool := rfl

@[simp] theorem branchType_atTime : (site.atTime now).branchType = site.branchType := rfl

theorem clock_atTime_eq : (site.atTime now).clock operand =
    { site.clock operand with
      minutes := (site.job.zoneOf operand.field).offsetMinutes now } := by
  have zone := site.job.zoneOf_atTime now operand.field
  unfold Site.clock Site.atTime
  dsimp only
  rw [zone]
  rfl

theorem clock_atTime (same : site.job.SameOffsets now) :
    (site.atTime now).clock operand = site.clock operand := by
  rw [clock_atTime_eq, same _ (site.job.zoneOf_cases operand.field)]
  rfl

section

variable (agrees : site.target.dialect = .sqlite → site.job.SameOffsets now)

include agrees

theorem toDatetime_atTime : (site.atTime now).toDatetime operand = site.toDatetime operand := by
  unfold Site.toDatetime
  rw [target_atTime]
  cases dialect : site.target.dialect with
  | postgres => rfl
  | sqlite => rw [clock_atTime (agrees dialect)]

theorem branchValue_atTime : (site.atTime now).branchValue = site.branchValue := by
  funext type branch
  simp [Site.branchValue, toDatetime_atTime agrees]

theorem compareDatetimes_atTime (op : BinOp) (left right : Operand) :
    (site.atTime now).compareDatetimes op left right = site.compareDatetimes op left right := by
  simp [Site.compareDatetimes, toDatetime_atTime agrees]

theorem equal_atTime (negated : Bool) (left right : Operand) :
    (site.atTime now).equal negated left right = site.equal negated left right := by
  simp [Site.equal, compareTexts, compareNumbers, compareDatetimes_atTime agrees]

theorem compare_atTime (op : BinOp) (left right : Operand) :
    (site.atTime now).compare op left right = site.compare op left right := by
  simp [Site.compare, compareTexts, compareNumbers, compareDatetimes_atTime agrees]

end

end Site

namespace Call

def atTime (call : Call) (now : Instant) : Call := { call with job := call.job.atTime now }

variable {call : Call} {now : Instant}

@[simp] theorem toSite_atTime : (call.atTime now).toSite = call.toSite.atTime now := rfl

@[simp] theorem dialect_atTime : (call.atTime now).dialect = call.dialect := rfl

@[simp] theorem has_atTime : (call.atTime now).has = call.has := rfl

@[simp] theorem operand_atTime : (call.atTime now).operand = call.operand := rfl

@[simp] theorem operands_atTime : (call.atTime now).operands = call.operands := rfl

@[simp] theorem fault_atTime : (call.atTime now).fault = call.fault := rfl

@[simp] theorem unsupported_atTime : (call.atTime now).unsupported = call.unsupported := rfl

@[simp] theorem textLiteral_atTime : (call.atTime now).textLiteral = call.textLiteral := rfl

@[simp] theorem textLiteralOr_atTime : (call.atTime now).textLiteralOr = call.textLiteralOr := rfl

@[simp] theorem occurrence_atTime : (call.atTime now).occurrence = call.occurrence := rfl

@[simp] theorem number_atTime (i : Nat) : (call.atTime now).number i = call.number i := by
  simp [Call.number]

@[simp] theorem numberOrZero_atTime (i : Nat) :
    (call.atTime now).numberOrZero i = call.numberOrZero i := by
  simp [Call.numberOrZero]

@[simp] theorem text_atTime (i : Nat) : (call.atTime now).text i = call.text i := by
  simp [Call.text]

@[simp] theorem textOrEmpty_atTime (i : Nat) :
    (call.atTime now).textOrEmpty i = call.textOrEmpty i := by
  simp [Call.textOrEmpty]

@[simp] theorem truth_atTime (i : Nat) : (call.atTime now).truth i = call.truth i := by
  simp [Call.truth]

@[simp] theorem numberOr_atTime (i : Nat) (default : Expr) :
    (call.atTime now).numberOr i default = call.numberOr i default := by
  simp [Call.numberOr]

@[simp] theorem position_atTime (i : Nat) : (call.atTime now).position i = call.position i := by
  simp [Call.position]

@[simp] theorem length_atTime (i : Nat) : (call.atTime now).length i = call.length i := by
  simp [Call.length]

@[simp] theorem lengthOrOne_atTime (i : Nat) :
    (call.atTime now).lengthOrOne i = call.lengthOrOne i := by
  simp [Call.lengthOrOne]

@[simp] theorem weekStartsMonday_atTime :
    (call.atTime now).weekStartsMonday = call.weekStartsMonday := rfl

@[simp] theorem numberCount_atTime : (call.atTime now).numberCount = call.numberCount := by
  funext operand
  simp [Call.numberCount]

@[simp] theorem valueCount_atTime : (call.atTime now).valueCount = call.valueCount := by
  funext operand
  simp [Call.valueCount]

section

variable (agrees : call.target.dialect = .sqlite → call.job.SameOffsets now)

include agrees

theorem datetime_atTime (i : Nat) : (call.atTime now).datetime i = call.datetime i := by
  simp [Call.datetime, Site.toDatetime_atTime agrees]

theorem moment_atTime (sqlite : call.dialect = .sqlite) (i : Nat) :
    (call.atTime now).moment i = call.moment i := by
  simp [Call.moment, datetime_atTime agrees, Site.clock_atTime (agrees sqlite)]

theorem exists_withMinutes (i : Nat) :
    ∃ minutes, (call.atTime now).moment i = (call.moment i).withMinutes minutes := by
  refine ⟨(call.job.zoneOf (call.operand i).field).offsetMinutes now, ?_⟩
  rw [Call.moment, Call.moment, datetime_atTime agrees, toSite_atTime, operand_atTime,
    Site.clock_atTime_eq]
  rfl

theorem field_atTime (i : Nat) (field : String) :
    ((call.atTime now).moment i).field field = (call.moment i).field field := by
  obtain ⟨minutes, moved⟩ := exists_withMinutes agrees i
  rw [moved]
  rfl

theorem wall_atTime (i : Nat) : ((call.atTime now).moment i).wall = (call.moment i).wall := by
  obtain ⟨minutes, moved⟩ := exists_withMinutes agrees i
  rw [moved]
  rfl

theorem zoneText_atTime (i : Nat) :
    ((call.atTime now).moment i).clock.zoneText = (call.moment i).clock.zoneText := by
  obtain ⟨minutes, moved⟩ := exists_withMinutes agrees i
  rw [moved]
  rfl

theorem apply_moment_atTime {α : Type} (i : Nat) (f : Dialect → Moment → α)
    (blind : ∀ moment minutes, f .postgres (moment.withMinutes minutes) = f .postgres moment) :
    f call.dialect ((call.atTime now).moment i) = f call.dialect (call.moment i) := by
  cases dialect : call.dialect with
  | postgres =>
    obtain ⟨minutes, moved⟩ := exists_withMinutes agrees i
    rw [moved, blind]
  | sqlite => rw [moment_atTime agrees dialect]

theorem apply_jobClock_atTime {α : Type} (f : Dialect → WallClock → α)
    (blind : ∀ (clock : WallClock) minutes,
      f .postgres { clock with minutes } = f .postgres clock) :
    f call.dialect (call.atTime now).jobClock = f call.dialect call.jobClock := by
  cases dialect : call.dialect with
  | postgres => exact blind call.jobClock _
  | sqlite =>
    have offset := agrees dialect _ (call.job.zoneOf_cases none)
    exact congrArg (f .sqlite) (congrArg (WallClock.mk (call.job.zoneOf none).name) offset)

theorem part_atTime (field format : String) :
    (call.atTime now).part field format = call.part field format := by
  cases dialect : call.dialect with
  | postgres => simp [Call.part, dialect, field_atTime agrees]
  | sqlite => simp [Call.part, dialect, moment_atTime agrees dialect]

theorem second_atTime : (call.atTime now).second = call.second := by
  cases dialect : call.dialect with
  | postgres => simp [Call.second, dialect, field_atTime agrees]
  | sqlite => simp [Call.second, dialect, moment_atTime agrees dialect]

theorem weekNum_atTime : (call.atTime now).weekNum = call.weekNum := by
  cases dialect : call.dialect with
  | postgres => simp [Call.weekNum, dialect, field_atTime agrees]
  | sqlite => simp [Call.weekNum, dialect, moment_atTime agrees dialect]

theorem weekday_atTime : (call.atTime now).weekday = call.weekday := by
  simp [Call.weekday, part_atTime agrees, field_atTime agrees]

theorem difference_atTime (i : Nat) (start : Moment) (unit : TimeUnit) :
    difference call.dialect start ((call.atTime now).moment i) unit =
      difference call.dialect start (call.moment i) unit :=
  apply_moment_atTime agrees i (fun dialect finish => difference dialect start finish unit)
    fun _ _ => rfl

theorem datetimeDiff_atTime : (call.atTime now).datetimeDiff = call.datetimeDiff := by
  have apart (finish : Moment) (unit : TimeUnit) :
      difference call.dialect ((call.atTime now).moment 0) finish unit =
        difference call.dialect (call.moment 0) finish unit :=
    apply_moment_atTime agrees 0 (fun dialect start => difference dialect start finish unit)
      fun _ _ => rfl
  simp [Call.datetimeDiff, Call.unit, difference_atTime agrees, apart]

theorem fromNow_atTime (select : call.target.placement = .select) :
    (call.atTime now).fromNow = call.fromNow := by
  have apart (finish : Moment) (unit : TimeUnit) :
      difference call.dialect ⟨liveNow call.dialect, (call.atTime now).jobClock⟩ finish unit =
        difference call.dialect ⟨liveNow call.dialect, call.jobClock⟩ finish unit :=
    apply_jobClock_atTime agrees
      (fun dialect clock => difference dialect ⟨liveNow dialect, clock⟩ finish unit) fun _ _ => rfl
  simp [Call.fromNow, Call.now, Call.unit, select, difference_atTime agrees, apart]

theorem dateAdd_atTime : (call.atTime now).dateAdd = call.dateAdd := by
  have moved (amount : Expr) (unit : TimeUnit) :
      shift call.dialect ((call.atTime now).moment 0) amount unit =
        shift call.dialect (call.moment 0) amount unit :=
    apply_moment_atTime agrees 0 (fun dialect moment => shift dialect moment amount unit)
      fun _ _ => rfl
  simp [Call.dateAdd, moved]

theorem dateRelation_atTime (op : BinOp) :
    (call.atTime now).dateRelation op = call.dateRelation op := by
  have cut (i : Nat) (unit : TimeUnit) :
      truncated call.dialect ((call.atTime now).moment i) unit =
        truncated call.dialect (call.moment i) unit :=
    apply_moment_atTime agrees i (fun dialect moment => truncated dialect moment unit)
      fun _ _ => rfl
  simp [Call.dateRelation, datetime_atTime agrees, cut]

theorem workday_atTime : (call.atTime now).workday = call.workday := by
  cases dialect : call.dialect with
  | postgres =>
    simp [Call.workday, workdays, dialect, wall_atTime agrees, field_atTime agrees,
      zoneText_atTime agrees]
  | sqlite => simp [Call.workday, workdays, dialect, moment_atTime agrees dialect]

theorem workdayDiff_atTime : (call.atTime now).workdayDiff = call.workdayDiff := by
  cases dialect : call.dialect with
  | postgres => simp [Call.workdayDiff, dialect, wall_atTime agrees]
  | sqlite => simp [Call.workdayDiff, dialect, moment_atTime agrees dialect]

theorem format_atTime (format : String) : (call.atTime now).format format = call.format format :=
  apply_moment_atTime agrees 0 (fun dialect moment => shownIn dialect moment format) fun _ _ => rfl

theorem datetimeParse_atTime : (call.atTime now).datetimeParse = call.datetimeParse := by
  cases dialect : call.dialect with
  | postgres =>
    have parsed (format : String) :
        (call.atTime now).parsePostgres format = call.parsePostgres format := by
      simp only [Call.parsePostgres, text_atTime, operand_atTime, toSite_atTime,
        Site.target_atTime]
      rfl
    simp [Call.datetimeParse, dialect, parsed, datetime_atTime agrees]
  | sqlite =>
    have parsed (format : String) :
        (call.atTime now).parseSqlite format = call.parseSqlite format := by
      simp [Call.parseSqlite, Site.clock_atTime (agrees dialect)]
    simp [Call.datetimeParse, dialect, parsed, datetime_atTime agrees]

theorem liveToday_atTime :
    liveToday call.dialect (call.atTime now).jobClock = liveToday call.dialect call.jobClock :=
  apply_jobClock_atTime agrees liveToday fun _ _ => rfl

variable (blind : call.target.placement = .generated → call.operation.readsPresent = false)

include blind

theorem own?_atTime : (call.atTime now).own? = call.own? := by
  unfold Call.own?
  rw [toSite_atTime, Site.operation_atTime]
  cases named : call.operation with
  | year | month | day | hour | minute =>
    simp [Call.year, Call.month, Call.day, Call.hour, Call.minute, part_atTime agrees]
  | second => simp [second_atTime agrees]
  | weekNum => simp [weekNum_atTime agrees]
  | weekday => simp [weekday_atTime agrees]
  | datetimeDiff => simp [datetimeDiff_atTime agrees]
  | workday => simp [workday_atTime agrees]
  | workdayDiff => simp [workdayDiff_atTime agrees]
  | isSame | isAfter | isBefore => simp [dateRelation_atTime agrees]
  | dateAdd => simp [dateAdd_atTime agrees]
  | dateStr | timeStr | datetimeFormat => simp [Call.datetimeFormat, format_atTime agrees]
  | datetimeParse => simp [datetimeParse_atTime agrees]
  | fromNow | toNow =>
    cases placement : call.target.placement with
    | generated =>
      -- Here the result has the present of the job in it.
      have other := blind placement
      rw [named] at other
      cases other
    | select => simp [fromNow_atTime agrees placement]
  | now => rfl
  | today => simp [liveToday_atTime agrees]
  | max | min => simp [Call.max, Call.min, Call.numbers]
  | round | roundUp | roundDown =>
    simp [Call.round, Call.roundUp, Call.roundDown, Call.places]
  | mod | modulo => simp [Call.modulo]
  | right | rept | substitute | regexpReplace | encodeUrl =>
    simp [Call.right, Call.rept, Call.substituteNth, Call.regexpReplace, Call.encodeUrl]
  | error => simp [Call.raise]
  | arrayUnique | arrayFlatten | arrayCompact =>
    simp [Call.arrayOf, Elements.member?, Elements.asJsonb, Elements.asJsonArray]
  | _ => rfl

theorem shared_atTime : (call.atTime now).shared = call.shared := by
  unfold Call.shared
  rw [toSite_atTime, Site.operation_atTime]
  cases named : call.operation with
  | sum | average | count | countA | countAll =>
    simp [Call.sum, Call.average, Call.count, Call.countA, Call.countAll]
  | ceiling | floor | even | odd | int | abs =>
    simp [Call.ceiling, Call.floor, Call.even, Call.odd, Call.int, Call.abs]
  | sqrt | power | exp | log => simp [Call.sqrt, Call.power, Call.exp, Call.log]
  | add | subtract | multiply | divide | unaryMinus =>
    simp [Call.add, Call.arithmetic, Call.divide, Call.unaryMinus]
  | concatenate | concat | find | search | mid | left | replace | substitute =>
    simp [Call.concatenate, Call.find, Call.search, Call.positionOf, Call.mid, Call.left,
      Call.replace, Call.substituteAll]
  | lower | upper | trim | len | arrayJoin => simp [Call.textFunction, Call.len, Call.arrayJoin]
  | t =>
    unfold Call.t
    rw [operand_atTime]
    rfl
  | value | castToNumber | textAll | castToString | castToBoolean => simp
  | and | logicalAnd | or | logicalOr | xor | not => simp [Call.logical, Call.xor, Call.not]
  | ifElse =>
    simp only [Call.ifElse, truth_atTime, operand_atTime, has_atTime, toSite_atTime,
      Site.branchType_atTime, Site.branchValue_atTime agrees]
    rfl
  | switch =>
    simp [Call.switch, Site.equal_atTime agrees, Site.branchValue_atTime agrees]
  | castToDate => simp [datetime_atTime agrees]
  | equal | notEqual => simp [Call.equality, Site.equal_atTime agrees]
  | greaterThan | greaterThanOrEqual | lessThan | lessThanOrEqual =>
    simp [Call.comparison, Site.compare_atTime agrees]
  | now | today =>
    cases placement : call.target.placement with
    | generated =>
      have other := blind placement
      rw [named] at other
      cases other
    | select => simp [placement]
  | _ => rfl

theorem compile_atTime : (call.atTime now).compile = call.compile := by
  have own := own?_atTime agrees blind
  have shared := shared_atTime agrees blind
  unfold Call.compile
  rw [own, shared]

end

end Call

section

variable {target : Target} {job : Job} {name : String} {args : List String} {hints : List Hint}
variable {now : Instant}

theorem render_atTime (agrees : target.dialect = .sqlite → job.SameOffsets now)
    (blind : target.placement = .generated →
      ∀ operation, Operation.ofName? name = some operation → operation.readsPresent = false) :
    target.render (job.atTime now) name args hints = target.render job name args hints := by
  unfold Target.render
  cases named : Operation.ofName? name with
  | none => rfl
  | some operation =>
    let call : Call := { job, target, operation, args, hints }
    have compiled : (call.atTime now).compile = call.compile :=
      Call.compile_atTime agrees fun generated => blind generated operation named
    dsimp only
    unfold Target.renderOperation
    exact congrArg (fun result => Target.check operation args hints >>= fun _ =>
      result >>= fun e => .ok (e.print target.dialect)) compiled

theorem Expr.readsClock_of_isExtremum {e : Expr} (extremum : e.isExtremum = true) :
    e.readsClock = false := by
  unfold Expr.isExtremum at extremum
  split at extremum
  · rename_i function argument
    have word : Text.lowered function = "max" ∨ Text.lowered function = "min" := by
      simpa using extremum
    rcases word with word | word <;> simp +decide [Expr.readsClock, word]
  · cases extremum

theorem Rule.emitted_implies_frozen (generated : target.placement = .generated)
    (stable : List String) : (Rule.emitted target stable).Implies .frozen where
  node := fun node => by
    have rest := (Bool.and_eq_true_iff.1 node).2
    rw [generated] at rest
    exact (Bool.and_eq_true_iff.1 rest).1
  fold := fun fold => by
    have extremum := (Bool.and_eq_true_iff.1 fold).2
    simp [Rule.frozen, Expr.readsClock_of_isExtremum extremum]
  query := fun _ => rfl
  source := fun _ => rfl

end

/--
The present is frozen in generated columns, where no expression looks at the clock of the engine.
No text depends on the present of the job but those of the four operations that write it down in a
generated column, and on SQLite those that have other offsets of zones.
-/
theorem render_frozen (target : Target) (job : Job) (name : String) (args : List String)
    (hints : List Hint) (now : Instant) :
    (target.placement = .generated → ∀ sql, target.render job name args hints = .ok sql →
      ∃ operation e, Operation.ofName? name = some operation ∧
        Call.compile { job, target, operation, args, hints } = .ok e ∧
        sql = e.print target.dialect ∧ e.obeys .frozen = true) ∧
    ((target.dialect = .sqlite → job.SameOffsets now) →
      (target.placement = .generated →
        ∀ operation, Operation.ofName? name = some operation → operation.readsPresent = false) →
      target.render (job.atTime now) name args hints = target.render job name args hints) := by
  refine ⟨?_, fun agrees blind => render_atTime agrees blind⟩
  intro generated sql rendered
  obtain ⟨call, rfl, rfl, rfl, rfl, named, e, compiled, printed, obeys⟩ :=
    exists_compile_of_render rendered
  exact ⟨call.operation, e, named, compiled, printed,
    e.obeys_mono (Rule.emitted_implies_frozen generated _) obeys⟩

def meetingJob : Job :=
  { Job.ofCatalog (.ofFields [.ofStorage "fld1" "met" .datetime]) ⟨1700000000, 0⟩ with
    zone := .newYork }

theorem meetingJob_sameOffsets : meetingJob.SameOffsets ⟨1700086400, 0⟩ := by
  have same : ∀ zone ∈ Zone.all,
      zone.offsetMinutes ⟨1700086400, 0⟩ = zone.offsetMinutes ⟨1700000000, 0⟩ := by
    decide +kernel
  intro zone known
  rcases known with here | ⟨name, named⟩
  · subst here
    exact same Zone.newYork (by decide +kernel)
  · exact same zone (List.mem_of_find?_eq_some named)

/-- How long ago a meeting was looks at no clock, and its hour is the same a day later. -/
theorem render_frozen_meeting :
    (∃ operation e, Operation.ofName? "FROM_NOW" = some operation ∧
      Call.compile
          { job := meetingJob, target := ⟨.sqlite, .generated⟩, operation
            args := ["\"met\"", "'day'"], hints := [] } = .ok e ∧
        e.obeys .frozen = true) ∧
    Target.render ⟨.sqlite, .generated⟩ (meetingJob.atTime ⟨1700086400, 0⟩) "HOUR" ["\"met\""] [] =
      Target.render ⟨.sqlite, .generated⟩ meetingJob "HOUR" ["\"met\""] [] := by
  have frozen := (render_frozen ⟨.sqlite, .generated⟩ meetingJob "FROM_NOW" ["\"met\"", "'day'"] []
    ⟨1700086400, 0⟩).1 rfl _ rfl
  have same := (render_frozen ⟨.sqlite, .generated⟩ meetingJob "HOUR" ["\"met\""] []
    ⟨1700086400, 0⟩).2 (fun _ => meetingJob_sameOffsets) fun _ operation named => by
      have hour : Operation.ofName? "HOUR" = some .hour := by decide
      cases Option.some.inj (hour.symm.trans named)
      rfl
  obtain ⟨operation, e, named, compiled, -, obeys⟩ := frozen
  exact ⟨⟨operation, e, named, compiled, obeys⟩, same⟩

end SheetSql
