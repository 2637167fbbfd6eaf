import Mathlib.Tactic.IntervalCases
import SheetSql.Proofs.Denotation.Extremum
import SheetSql.Proofs.Moment.LocalTime

namespace SheetSql

/-! Times cut to a unit. -/

theorem Chars.before_irrefl (cs : List Char) : before cs cs = false := by
  induction cs with
  | nil => rfl
  | cons c cs ih => rw [before_cons, ih]

theorem Chars.eq_of_not_before (first : before cs ds = false) (second : before ds cs = false) :
    cs = ds := by
  induction cs generalizing ds with
  | nil =>
    cases ds with
    | nil => rfl
    | cons d ds => cases first
  | cons c cs ih =>
    cases ds with
    | nil => cases second
    | cons d ds =>
      simp only [before, Bool.or_eq_false_iff, decide_eq_false_iff_not] at first second
      obtain rfl : c = d := Char.toNat_inj.1 (by omega)
      rw [beq_self_eq_true, Bool.true_and] at first second
      rw [ih first.2 second.2]

namespace Date

def onward (date : Date) (weekday : Int) : Date := date.addDays ((weekday - date.weekday) % 7)

def monday (date : Date) : Date := date.addDays (1 - date.weekday)

theorem onward_eq_monday {date : Date} (real : date.IsReal) :
    (date.addDays (-6)).onward 1 = date.monday := by
  obtain ⟨earlier, number⟩ := addDays_spec real (-6)
  obtain ⟨isReal, start⟩ := addDays_spec real (1 - date.weekday)
  rw [onward, monday, addDays_eq_iff earlier isReal, start, number, weekday, weekday, number]
  omega

end Date

namespace Stamp

def Before (a b : Stamp) : Prop :=
  a.date.Before b.date ∨ a.date = b.date ∧ a.seconds < b.seconds

instance (a b : Stamp) : Decidable (a.Before b) := by
  unfold Before Date.Before
  infer_instance

theorem not_before_self (stamp : Stamp) : ¬stamp.Before stamp := by
  simp [Before, Date.Before]

theorem eq_of_not_before {a : Stamp} (first : ¬a.Before b) (second : ¬b.Before a) : a = b := by
  rcases Date.before_trichotomy a.date b.date with before | same | after
  · exact absurd (.inl before) first
  · have seconds : a.seconds = b.seconds :=
      le_antisymm (not_lt.1 fun less => second (.inr ⟨same.symm, less⟩))
        (not_lt.1 fun less => first (.inr ⟨same, less⟩))
    obtain ⟨date, time⟩ := a
    obtain ⟨date', time'⟩ := b
    exact congrArg₂ mk same seconds
  · exact absurd (.inl after) second

def floorTo (stamp : Stamp) (step : Nat) : ℚ := ⌊stamp.seconds * 1000 / step⌋ * step / 1000

theorem floorTo_lt_iff {a b : Stamp} (first : a.IsShown) (second : b.IsShown) {step : Nat}
    (positive : 0 < step) :
    a.floorTo step < b.floorTo step ↔ a.millis / step < b.millis / step := by
  have whole : ∀ {stamp : Stamp}, stamp.IsShown →
      stamp.floorTo step = ((stamp.millis / step : Nat) : ℚ) * (step / 1000) := by
    intro stamp shown
    have scaled : stamp.seconds * 1000 = stamp.millis := by
      rw [seconds_eq shown]
      ring
    rw [floorTo, scaled, ← Int.cast_natCast, Rat.floor_intCast_div_natCast, mul_div_assoc]
    norm_cast
  have scale : (0 : ℚ) < step / 1000 := by positivity
  rw [whole first, whole second, mul_lt_mul_iff_left₀ scale, Nat.cast_lt]

/-- The start of the year, quarter, week and so on that a time is in. -/
def truncate (stamp : Stamp) : TimeUnit → Stamp
  | .year => ⟨⟨stamp.date.year, 1, 1⟩, 0⟩
  | .quarter => ⟨⟨stamp.date.year, (stamp.date.month - 1) / 3 * 3 + 1, 1⟩, 0⟩
  | .month => ⟨{ stamp.date with day := 1 }, 0⟩
  | .week => ⟨stamp.date.monday, 0⟩
  | .day => ⟨stamp.date, 0⟩
  | .hour => ⟨stamp.date, stamp.floorTo 3600000⟩
  | .minute => ⟨stamp.date, stamp.floorTo 60000⟩
  | .second => ⟨stamp.date, stamp.floorTo 1000⟩
  | .millisecond => ⟨stamp.date, stamp.floorTo 1⟩

/-- The text for what a time is cut to, from parts of fixed width. -/
def key (stamp : Stamp) : TimeUnit → List Char
  | .year => Chars.digits 4 stamp.date.year.toNat
  | .quarter =>
    Chars.digits 4 stamp.date.year.toNat ++ '-' :: Chars.digits 1 ((stamp.date.month + 2) / 3)
  | .month => Chars.digits 4 stamp.date.year.toNat ++ '-' :: Chars.digits 2 stamp.date.month
  | .week => stamp.date.monday.isoText
  | .day => stamp.date.isoText
  | .hour => stamp.date.isoText ++ 'T' :: Chars.digits 2 (stamp.millis / 3600000)
  | .minute =>
    stamp.date.isoText ++ 'T' :: (Chars.digits 2 (stamp.millis / 3600000) ++
      ':' :: Chars.digits 2 (stamp.millis / 60000 % 60))
  | .second =>
    stamp.date.isoText ++ 'T' :: (Chars.digits 2 (stamp.millis / 3600000) ++
      ':' :: (Chars.digits 2 (stamp.millis / 60000 % 60) ++
        ':' :: Chars.digits 2 (stamp.millis / 1000 % 60)))
  | .millisecond =>
    stamp.date.isoText ++ 'T' :: (Chars.digits 2 (stamp.millis / 3600000) ++
      ':' :: (Chars.digits 2 (stamp.millis / 60000 % 60) ++
        ':' :: (Chars.digits 2 (stamp.millis / 1000 % 60) ++
          '.' :: Chars.digits 3 (stamp.millis % 1000))))

/-- A time that has a key: the years have four digits, also that of the Monday if it is asked for. -/
def IsCut (unit : TimeUnit) (stamp : Stamp) : Prop :=
  stamp.IsShown ∧ (unit = .week → stamp.date.monday.IsShown)

theorem before_date_iff {a b : Date} (first : a.IsShown) (second : b.IsShown) :
    Chars.before a.isoText b.isoText = true ↔ Before ⟨a, 0⟩ ⟨b, 0⟩ := by
  rw [Date.before_isoText first second, decide_eq_true_iff,
    Date.dayNumber_lt_iff first.toIsReal second.toIsReal]
  simp [Before]

theorem before_time_iff {a b : Stamp} (first : a.IsShown) (second : b.IsShown) (positive : 0 < step)
    (order : Chars.before cs ds = true ↔ a.millis / step < b.millis / step) :
    Chars.before (a.date.isoText ++ 'T' :: cs) (b.date.isoText ++ 'T' :: ds) = true ↔
      Before ⟨a.date, a.floorTo step⟩ ⟨b.date, b.floorTo step⟩ := by
  have same : a.date.isoText = b.date.isoText ↔ a.date = b.date := by
    refine ⟨fun same => Option.some.inj ?_, congrArg Date.isoText⟩
    rw [← Date.ofIso?_isoText first.date, same, Date.ofIso?_isoText second.date]
  have lengths : a.date.isoText.length = b.date.isoText.length := rfl
  rw [Chars.before_append lengths, Chars.before_cons, Bool.or_eq_true, Bool.and_eq_true, order,
    beq_iff_eq, same, before_date_iff first.date second.date, Before, Before,
    floorTo_lt_iff first second positive]
  simp only [lt_irrefl, and_false, or_false]

theorem before_key_iff {a b : Stamp} (first : a.IsCut unit) (second : b.IsCut unit) :
    Chars.before (a.key unit) (b.key unit) = true ↔
      (a.truncate unit).Before (b.truncate unit) := by
  obtain ⟨shown, monday⟩ := first
  obtain ⟨shown', monday'⟩ := second
  have small := millis_lt shown
  have small' := millis_lt shown'
  have ⟨⟨⟨first, last, _, _⟩, _, _⟩, low, high, _⟩ := shown
  have ⟨⟨⟨first', last', _, _⟩, _, _⟩, low', high', _⟩ := shown'
  cases unit with
  | year | quarter | month =>
    simp (disch := omega) only [key, truncate, Before, Date.Before, Chars.before_digits_append,
      Chars.before_digits, Chars.before_cons, lt_irrefl, and_false, or_false, Bool.or_eq_true,
      Bool.and_eq_true, decide_eq_true_iff]
    omega
  | week => exact before_date_iff (monday rfl) (monday' rfl)
  | day => exact before_date_iff shown.date shown'.date
  | hour =>
    refine before_time_iff shown shown' (by decide) ?_
    rw [Chars.before_digits (by omega) (by omega), decide_eq_true_iff]
  | minute | second | millisecond =>
    refine before_time_iff shown shown' (by decide) ?_
    simp (disch := omega) only [Chars.before_digits_append, Chars.before_digits,
      Chars.before_cons, Bool.or_eq_true, Bool.and_eq_true, decide_eq_true_iff]
    omega

theorem key_eq_iff {a b : Stamp} (first : a.IsCut unit) (second : b.IsCut unit) :
    a.key unit = b.key unit ↔ a.truncate unit = b.truncate unit := by
  have order := before_key_iff first second
  have reverse := before_key_iff second first
  constructor
  · intro same
    rw [same, Chars.before_irrefl] at order
    rw [same, Chars.before_irrefl] at reverse
    exact eq_of_not_before (fun before => Bool.false_ne_true (order.2 before))
      fun before => Bool.false_ne_true (reverse.2 before)
  · intro same
    rw [same] at order reverse
    exact Chars.eq_of_not_before (eq_false_of_ne_true fun before => not_before_self _ (order.1 before))
      (eq_false_of_ne_true fun before => not_before_self _ (reverse.1 before))

def compared? (op : BinOp) (a b : Stamp) : Option Bool :=
  match op with
  | .eq => some (decide (a = b))
  | .lt => some (decide (a.Before b))
  | .gt => some (decide (b.Before a))
  | _ => none

theorem compared?_cases {a : Stamp} (compared : a.compared? op b = some holds) :
    op = .eq ∧ holds = decide (a = b) ∨ op = .lt ∧ holds = decide (a.Before b) ∨
      op = .gt ∧ holds = decide (b.Before a) := by
  unfold compared? at compared
  split at compared
  · exact .inl ⟨rfl, (Option.some.inj compared).symm⟩
  · exact .inr (.inl ⟨rfl, (Option.some.inj compared).symm⟩)
  · exact .inr (.inr ⟨rfl, (Option.some.inj compared).symm⟩)
  · cases compared

end Stamp

namespace Server

def cutCall (function : String) (args : List Item) : Option Item :=
  match function, args with
  | "date_trunc", [.value (.text name), .stamp stamp] =>
    (TimeUnit.all.find? (·.truncateName.toList = name)).map fun unit =>
      .stamp (stamp.truncate unit)
  | _, _ => none

/-- Times are compared, and on SQLite an integer is appended to a text. -/
def cutBinary (server : Server) (op : BinOp) : Item → Item → Option Item
  | .stamp a, .stamp b => (a.compared? op b).map fun holds => .value (.ofBool server.dialect holds)
  | .value (.text cs), .value (.int n) =>
    if server.dialect = .sqlite ∧ op = .concat then some (.text (cs ++ (toString n).toList))
    else none
  | _, _ => none

noncomputable def almanac (server : Server) : Interpretation Item :=
  { server.interpretation with
    call := fun function args => (server.call function args).or (cutCall function args)
    binary := fun op a b => (server.binary op a b).or (server.cutBinary op a b) }

theorem call_almanac {server : Server} (found : server.call function args = some item) :
    server.almanac.call function args = some item := by
  change (server.call function args).or _ = _
  rw [found]
  rfl

theorem binary_almanac {server : Server} (found : server.binary op a b = some item) :
    server.almanac.binary op a b = some item := by
  change (server.binary op a b).or _ = _
  rw [found]
  rfl

/-- On SQLite, `weekday 1` leads from a day to the next Monday, or leaves it if it is one. -/
def KnowsWeeks (server : Server) : Prop :=
  ∀ {value : Value} {clock : List Char} {stamp : Stamp}, server.time? value [clock] = some stamp →
    ((stamp.date.addDays (-6)).onward 1).IsShown →
      server.time? value [clock, "-6 days".toList, "weekday 1".toList] =
        some ⟨(stamp.date.addDays (-6)).onward 1, stamp.seconds⟩

def ofCut (server : Server) (unit : TimeUnit) (stamp : Stamp) : Item :=
  match server.dialect with
  | .postgres => .stamp (stamp.truncate unit)
  | .sqlite => .text (stamp.key unit)

theorem binary_ofCut (server : Server) {a b : Stamp} (first : a.IsCut unit) (second : b.IsCut unit)
    (compared : (a.truncate unit).compared? op (b.truncate unit) = some holds) :
    server.almanac.binary op (server.ofCut unit a) (server.ofCut unit b) =
      some (server.almanac.bool holds) := by
  cases dialect : server.dialect with
  | postgres =>
    have cut : ∀ stamp, server.ofCut unit stamp = .stamp (stamp.truncate unit) := by
      simp only [ofCut, dialect, implies_true]
    have others : server.binary op (.stamp (a.truncate unit)) (.stamp (b.truncate unit)) =
        none := by
      obtain ⟨rfl, -⟩ | ⟨rfl, -⟩ | ⟨rfl, -⟩ := Stamp.compared?_cases compared <;> rfl
    change (server.binary op _ _).or (server.cutBinary op _ _) = _
    rw [cut, cut, others, Option.none_or, cutBinary, compared]
    rfl
  | sqlite =>
    have cut : ∀ stamp, server.ofCut unit stamp = .text (stamp.key unit) := by
      simp only [ofCut, dialect, implies_true]
    have texts : ∀ cs ds, Item.before? server.dialect (.text cs) (.text ds) =
        some (some (Chars.before cs ds)) := fun cs ds => if_pos dialect
    have order : ∀ {a b : Stamp}, a.IsCut unit → b.IsCut unit →
        decide ((a.truncate unit).Before (b.truncate unit)) =
          Chars.before (a.key unit) (b.key unit) := fun first second => by
      rw [Bool.eq_iff_iff, decide_eq_true_iff, Stamp.before_key_iff first second]
    have found : server.binary op (.text (a.key unit)) (.text (b.key unit)) =
        some (.value (.ofBool server.dialect holds)) := by
      obtain ⟨rfl, rfl⟩ | ⟨rfl, rfl⟩ | ⟨rfl, rfl⟩ := Stamp.compared?_cases compared
      · rw [← decide_eq_decide.2 (Stamp.key_eq_iff first second), ← beq_eq_decide]
        rfl
      · rw [order first second, Server.binary, texts]
        rfl
      · rw [order second first, Server.binary, texts]
        rfl
    rw [cut, cut]
    exact binary_almanac found

end Server

section

variable {server : Server} {evaluation : Evaluation server.almanac} {moment : Moment}
  {stamp : Stamp} {unit : TimeUnit}

def Moment.Reads (evaluation : Evaluation server.almanac) (moment : Moment) (stamp : Stamp) :
    Prop :=
  match server.dialect with
  | .postgres => evaluation.Gives moment.wall (.stamp stamp)
  | .sqlite =>
    ∃ value, evaluation.Gives moment.value (.value value) ∧ (Item.value value).isNull = false ∧
      server.time? value [(minutesText moment.clock.minutes).toList] = some stamp

theorem gives_truncated_postgres (postgres : server.dialect = .postgres)
    (reads : moment.Reads evaluation stamp) :
    evaluation.Gives (Call.truncated .postgres moment unit) (.stamp (stamp.truncate unit)) := by
  rw [Moment.Reads, postgres] at reads
  refine Evaluation.gives_call (by decide) (.cons (evaluation.text _) (.cons reads .nil)) ?_
  cases unit <;> rfl

theorem gives_shown {format : String} (sqlite : server.dialect = .sqlite)
    (reads : moment.Reads evaluation stamp) (isShown : stamp.shown? format.toList = some cs) :
    evaluation.Gives (moment.shown format) (.text cs) := by
  rw [Moment.Reads, sqlite] at reads
  obtain ⟨value, isValue, filled, isTime⟩ := reads
  refine Evaluation.gives_call (by decide)
    (.cons (evaluation.text _) (.cons isValue (.cons (evaluation.text _) .nil))) ?_
  exact Server.call_almanac (call_strftime [_] filled isTime isShown)

theorem gives_quarterKey (sqlite : server.dialect = .sqlite) (shown : stamp.IsShown)
    (reads : moment.Reads evaluation stamp) :
    evaluation.Gives (Call.truncationKey moment .quarter) (.text (stamp.key .quarter)) := by
  have last := shown.isReal.month_le
  have nat : ∀ n : Nat, evaluation.Gives (Expr.int n) (.int n) := by
    intro n
    refine (evaluation.number _).trans ?_
    change (Decimal.read? _).map _ = _
    rw [read?_nat, Option.map_some, ofWritten_nat]
  have month : evaluation.Gives ((moment.shown "%m").cast .integer) (.int stamp.date.month) := by
    refine Evaluation.gives_cast (gives_shown sqlite reads rfl) ?_
    change server.cast .integer (.text (Chars.digits 2 stamp.date.month)) = _
    simp only [Server.cast, sqlite]
    rw [Value.castWhole_digits (by omega) (by omega)]
  have quotient : evaluation.Gives (((moment.shown "%m").cast .integer + 2) / 3)
      (.int (((stamp.date.month + 2) / 3 : Nat) : Int)) := by
    exact Evaluation.gives_binary (Evaluation.gives_binary month (nat 2) rfl) (nat 3)
      (Server.binary_almanac (Server.binary_div (by decide)))
  have digit : (toString (((stamp.date.month + 2) / 3 : Nat) : Int)).toList =
      Chars.digits 1 ((stamp.date.month + 2) / 3) := by
    have small : (stamp.date.month + 2) / 3 < 5 := by omega
    generalize (stamp.date.month + 2) / 3 = quarter at small ⊢
    interval_cases quarter <;> rfl
  have appended : ∀ (cs : List Char) (n : Int), server.almanac.binary .concat (.text cs) (.int n) =
      some (.text (cs ++ (toString n).toList)) := fun cs n => if_pos ⟨sqlite, rfl⟩
  refine Evaluation.gives_chain (gives_shown sqlite reads rfl)
    (.cons (evaluation.text "-") (.cons quotient .nil)) ?_
  change (server.almanac.binary .concat (.text (Chars.digits 4 stamp.date.year.toNat ++ ['-']))
    (.int _) >>= pure) = _
  rw [appended, digit, List.append_assoc]
  rfl

theorem gives_truncationKey (sqlite : server.dialect = .sqlite) (weeks : server.KnowsWeeks)
    (isCut : stamp.IsCut unit) (reads : moment.Reads evaluation stamp) :
    evaluation.Gives (Call.truncationKey moment unit) (.text (stamp.key unit)) := by
  cases unit with
  | year | month | day | hour | minute | second | millisecond =>
    exact gives_shown sqlite reads rfl
  | quarter => exact gives_quarterKey sqlite isCut.1 reads
  | week =>
    rw [Moment.Reads, sqlite] at reads
    obtain ⟨value, isValue, filled, isTime⟩ := reads
    have start := Date.onward_eq_monday isCut.1.isReal
    have week := weeks isTime
    rw [start] at week
    refine Evaluation.gives_call (by decide) (.cons isValue (.cons (evaluation.text _)
      (.cons (evaluation.text _) (.cons (evaluation.text _) .nil)))) ?_
    refine Server.call_almanac ((call_date [_, _, _] filled).trans ?_)
    rw [week (isCut.2 rfl)]
    rfl

theorem gives_truncated (weeks : server.KnowsWeeks) (isCut : stamp.IsCut unit)
    (reads : moment.Reads evaluation stamp) :
    evaluation.Gives (Call.truncated server.dialect moment unit) (server.ofCut unit stamp) := by
  unfold Server.ofCut
  split
  · next postgres =>
      rw [postgres]
      exact gives_truncated_postgres postgres reads
  · next sqlite =>
      rw [sqlite]
      exact gives_truncationKey sqlite weeks isCut reads

end

def Operation.relation? : Operation → Option BinOp
  | .isSame => some .eq
  | .isBefore => some .lt
  | .isAfter => some .gt
  | _ => none

theorem Call.compile_relation (call : Call) (relation : call.operation.relation? = some op) :
    call.compile = call.dateRelation op := by
  obtain ⟨⟨job, target, operation⟩, args, hints⟩ := call
  cases operation <;> cases relation <;> rfl

/--
The texts to which SQLite cuts times have the order of the times that Postgres cuts, so that tests up
to a unit hold for the same times on both dialects.
-/
theorem truncation_keys_order_as_times (unit : TimeUnit) {a b : Stamp} (first : a.IsCut unit)
    (second : b.IsCut unit) :
    ((Chars.before (a.key unit) (b.key unit) = true ↔ (a.truncate unit).Before (b.truncate unit)) ∧
      (a.key unit = b.key unit ↔ a.truncate unit = b.truncate unit) ∧
      (Chars.before (b.key unit) (a.key unit) = true ↔
        (b.truncate unit).Before (a.truncate unit))) ∧
    ∀ {server : Dialect → Server}, (∀ dialect, (server dialect).dialect = dialect) →
      (∀ dialect, (server dialect).KnowsWeeks) →
      ∀ evaluation : ∀ dialect, Evaluation (server dialect).almanac,
        (∀ moment : Moment, moment.Reads (evaluation .sqlite) a →
          (evaluation .sqlite).Gives (Call.truncationKey moment unit) (.text (a.key unit))) ∧
        ∀ (call : Call) (placement : Dialect → Placement) {op : BinOp} {literal : String},
          call.operation.relation? = some op →
          Target.check call.operation call.args call.hints = .ok () → call.has 2 = true →
          call.textLiteral 2 = .ok literal → (TimeUnit.ofText literal).forTruncation.unit = unit →
          (∀ dialect, ((call.on ⟨dialect, placement dialect⟩).moment 0).Reads (evaluation dialect) a ∧
            ((call.on ⟨dialect, placement dialect⟩).moment 1).Reads (evaluation dialect) b) →
          ∃ holds, (a.truncate unit).compared? op (b.truncate unit) = some holds ∧
            ∀ dialect, (evaluation dialect).Writes (call.on ⟨dialect, placement dialect⟩)
              ((server dialect).almanac.bool holds) := by
  refine ⟨⟨Stamp.before_key_iff first second, Stamp.key_eq_iff first second,
    Stamp.before_key_iff second first⟩, ?_⟩
  intro server engines weeks evaluation
  refine ⟨fun moment => gives_truncationKey (engines _) (weeks _) first, ?_⟩
  intro call placement op literal relation checked given spelled isUnit reads
  have decided : ∃ holds, (a.truncate unit).compared? op (b.truncate unit) = some holds := by
    unfold Operation.relation? at relation
    split at relation
    · cases relation
      exact ⟨_, rfl⟩
    · cases relation
      exact ⟨_, rfl⟩
    · cases relation
      exact ⟨_, rfl⟩
    · cases relation
  obtain ⟨holds, compared⟩ := decided
  refine ⟨holds, compared, fun dialect => Evaluation.writes_of_yields checked ?_⟩
  have compiled : (call.on ⟨dialect, placement dialect⟩).compile =
      .ok (.binary (Call.truncated dialect ((call.on ⟨dialect, placement dialect⟩).moment 0) unit) op
        (Call.truncated dialect ((call.on ⟨dialect, placement dialect⟩).moment 1) unit)) := by
    rw [Call.compile_relation (call.on ⟨dialect, placement dialect⟩) relation]
    refine (if_pos given).trans ?_
    change (call.textLiteral 2 >>= _) = _
    rw [spelled, ← isUnit]
    rfl
  have left := gives_truncated (weeks dialect) first (reads dialect).1
  have right := gives_truncated (weeks dialect) second (reads dialect).2
  rw [engines] at left right
  exact ⟨_, compiled, Evaluation.gives_binary left right
    ((server dialect).binary_ofCut first second compared)⟩

/-- A server with the days on both sides of a new year, which knows the Mondays before them. -/
def weekServer (dialect : Dialect) : Server :=
  let days := Server.ofDays dialect fun sql =>
    let day := (if sql = "\"opened\"" then "2024-12-31" else "2025-01-01").toList
    if dialect = .postgres then .other day else .text day
  let start := fun value : Value => (Item.value value).text?.bind fun cs =>
    days.time? (.text (cs.take 10)) []
  { days with
    time? := fun value moves =>
      match moves with
      | [] | [_] => start value
      | _ => (start value).bind fun stamp =>
        let day := (stamp.date.addDays (-6)).onward 1
        if day.IsShown then some ⟨day, stamp.seconds⟩ else none
    time?_isShown := by
      intro value moves stamp found
      have isShown : ∀ {stamp}, start value = some stamp → stamp.IsShown := fun found =>
        let ⟨_, _, isTime⟩ := Option.bind_eq_some_iff.1 found
        days.time?_isShown isTime
      split at found
      · exact isShown found
      · exact isShown found
      · obtain ⟨start, isStart, moved⟩ := Option.bind_eq_some_iff.1 found
        have shown := isShown isStart
        obtain ⟨day, same⟩ := Option.ite_none_right_eq_some.1 moved
        obtain rfl := Option.some.inj same
        exact ⟨⟨day.toIsReal, shown.seconds_nonneg, shown.seconds_lt⟩, day.year_nonneg,
          day.year_le, shown.whole⟩
    time?_isoText := fun shown => days.time?_isoText shown }

theorem knowsWeeks_weekServer (dialect : Dialect) : (weekServer dialect).KnowsWeeks :=
  fun found shown => Option.bind_eq_some_iff.2 ⟨_, found, if_pos shown⟩

def sameWeek : Call :=
  { job := .ofCatalog
      (.ofFields [.ofStorage "fld1" "opened" .datetime, .ofStorage "fld2" "closed" .datetime]) ⟨0, 0⟩
    target := ⟨.sqlite, .select⟩
    operation := .isSame
    args := ["\"opened\"", "\"closed\"", "'week'"]
    hints := [] }

theorem truncation_keys_order_as_times_week :
    Stamp.IsCut .week ⟨⟨2024, 12, 31⟩, 0⟩ ∧ Stamp.IsCut .week ⟨⟨2025, 1, 1⟩, 0⟩ ∧
      ∀ dialect, (Evaluation.scalar (weekServer dialect).almanac).Writes
        (sameWeek.on ⟨dialect, .select⟩) ((weekServer dialect).almanac.bool true) := by
  have isCut : ∀ date : Date, date.IsShown → date.monday.IsShown → Stamp.IsCut .week ⟨date, 0⟩ :=
    fun date shown monday => ⟨⟨⟨shown.toIsReal, le_rfl, by norm_num⟩, shown.year_nonneg,
      shown.year_le, 0, by simp⟩, fun _ => monday⟩
  have first := isCut ⟨2024, 12, 31⟩ (by decide) (by decide)
  have second := isCut ⟨2025, 1, 1⟩ (by decide) (by decide)
  have midnight : ∀ date : Date, Stamp.shown? ⟨date, 0⟩ "%Y-%m-%dT%H:%M:%fZ".toList =
      some (date.isoText ++ "T00:00:00.000Z".toList) := by
    intro date
    have zero : Stamp.millis ⟨date, 0⟩ = 0 := by simp [Stamp.millis]
    change some (Stamp.key ⟨date, 0⟩ .millisecond ++ ['Z']) = _
    rw [Stamp.key, zero, List.append_assoc]
    rfl
  have reads : ∀ dialect,
      ((sameWeek.on ⟨dialect, .select⟩).moment 0).Reads
          (Evaluation.scalar (weekServer dialect).almanac) ⟨⟨2024, 12, 31⟩, 0⟩ ∧
        ((sameWeek.on ⟨dialect, .select⟩).moment 1).Reads
          (Evaluation.scalar (weekServer dialect).almanac) ⟨⟨2025, 1, 1⟩, 0⟩ := by
    intro dialect
    cases dialect with
    | postgres =>
      exact ⟨Expr.Computes.atTimeZone (.fragment _) (.text _) rfl,
        Expr.Computes.atTimeZone (.fragment _) (.text _) rfl⟩
    | sqlite =>
      have normal : ∀ (sql : String) (date : Date),
          (weekServer .sqlite).time? (.text date.isoText) [] = some ⟨date, 0⟩ →
          (weekServer .sqlite).almanac.fragment sql = .text date.isoText →
          (Evaluation.scalar (weekServer .sqlite).almanac).Gives
            (.call "strftime" [.text "%Y-%m-%dT%H:%M:%fZ", .fragment sql])
            (.text (date.isoText ++ "T00:00:00.000Z".toList)) := by
        intro sql date isTime column
        refine Evaluation.gives_call (by decide)
          (.cons ((Evaluation.scalar _).text _) (.cons ((Evaluation.scalar _).fragment _) .nil)) ?_
        rw [column]
        exact Server.call_almanac (call_strftime [] rfl isTime (midnight date))
      exact ⟨⟨_, normal _ ⟨2024, 12, 31⟩ rfl rfl, rfl, rfl⟩,
        ⟨_, normal _ ⟨2025, 1, 1⟩ rfl rfl, rfl, rfl⟩⟩
  obtain ⟨holds, compared, written⟩ := ((truncation_keys_order_as_times .week first second).2
    (fun _ => rfl) knowsWeeks_weekServer (fun dialect => .scalar _)).2 sameWeek (fun _ => .select)
    rfl rfl rfl rfl rfl reads
  have same : holds = true := Option.some.inj (compared.symm.trans (by decide))
  rw [same] at written
  exact ⟨first, second, written⟩

end SheetSql
