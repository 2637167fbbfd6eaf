import SheetSql.Proofs.Denotation.Interpretation
import SheetSql.Proofs.Moment.ShownTime
import SheetSql.Proofs.Substitution.Occurrence

namespace SheetSql

/-!
The engines as interpretations. Their values have the types that they are computed with, so that
integers are divided as integers and days are counted as days.
-/

/-- What a server can hold: a scalar, or a value that only Postgres has. -/
inductive Item where
  | value (scalar : Value)
  | texts (items : List (List Char))
  | date (date : Date)
  | stamp (stamp : Stamp)
  | span (seconds : ℚ)

namespace Item

abbrev null : Item := .value .null

abbrev int (n : Int) : Item := .value (.int n)

abbrev real (q : ℚ) : Item := .value (.real q)

abbrev text (cs : List Char) : Item := .value (.text cs)

def isNull : Item → Bool
  | .value scalar => decide (scalar = .null)
  | _ => false

def scalar? : Item → Option Value
  | .value scalar => some scalar
  | _ => none

def text? : Item → Option (List Char)
  | .value (.text cs) => some cs
  | _ => none

def before? (dialect : Dialect) : Item → Item → Option (Option Bool)
  | .value .null, _ | _, .value .null => some none
  -- The order of texts on Postgres depends on a collation, which is left open.
  | .value (.text cs), .value (.text ds) =>
    if dialect = .sqlite then some (some (Chars.before cs ds)) else none
  | .value a, .value b => a.less? b
  | .date a, .date b => some (some (decide (a.dayNumber < b.dayNumber)))
  | _, _ => none

end Item

/-- A server, with the value that each text has in some row, and with its clocks. -/
structure Server where
  dialect : Dialect
  value : String → Value
  shown : ℚ → List Char
  /-- What the clock of a zone shows at a moment on Postgres. -/
  wall : (moment zone : List Char) → Stamp
  /-- The time that a value means on SQLite, after some moves. -/
  time? : Value → (moves : List (List Char)) → Option Stamp
  wall_isTime : ∀ moment zone, (wall moment zone).IsTime
  time?_isShown : ∀ {value moves stamp}, time? value moves = some stamp → stamp.IsShown
  time?_isoText : ∀ {date : Date}, date.IsShown → time? (.text date.isoText) [] = some ⟨date, 0⟩

namespace Server

variable (server : Server)

/-- On Postgres the integers are the values of integer types. -/
def toRow : Row where
  dialect := server.dialect
  value := server.value
  isInteger := fun sql => (server.value sql).int?.isSome
  shown := server.shown

def compare (test : Option (Option Bool)) (opposite : Bool) : Option Item :=
  test.map fun less => .value (.ofTruth server.dialect (if opposite then less.map (!·) else less))

noncomputable def compute (op : BinOp) : Item → Item → Option Item
  | .value a, .value b =>
    if op = .mod then (a.remainder? server.dialect b).map .value
    else (server.toRow.binary op true a b).map .value
  | .value .null, _ | _, .value .null => some .null
  | .date a, .date b => if op = .sub then some (.int (a.dayNumber - b.dayNumber)) else none
  | .stamp a, .stamp b =>
    if op = .sub then
      some (.span ((a.date.dayNumber - b.date.dayNumber) * 86400 + (a.seconds - b.seconds)))
    else none
  | _, _ => none

noncomputable def binary (op : BinOp) (a b : Item) : Option Item :=
  match op with
  | .lt => server.compare (a.before? server.dialect b) false
  | .gt => server.compare (b.before? server.dialect a) false
  | .le => server.compare (b.before? server.dialect a) true
  | .ge => server.compare (a.before? server.dialect b) true
  | op => server.compute op a b

def unary : UnOp → Item → Option Item
  | .not, .value a => do
      return .value (.ofTruth server.dialect ((← a.holds? server.dialect).map (!·)))
  | .neg, .value a => (Value.arithmetic (· - ·) (· - ·) (.int 0) a).map .value
  | _, _ => none

/-- A whole number on Postgres. One with a fraction is rounded, which is left open. -/
def castInteger : Value → Option Value
  | .real q => if q.den = 1 then some (.int q.num) else none
  | scalar => scalar.castInteger

def cast (type : SqlType) : Item → Option Item
  | .value scalar =>
    match type, server.dialect with
    | .text, _ => some (.value (scalar.castText server.shown))
    | .double, dialect => (scalar.castReal dialect).map .value
    | .integer, .postgres => (castInteger scalar).map .value
    | .integer, .sqlite => some (.value scalar.castWhole)
    | .date, .postgres => if scalar = .null then some .null else none
    | _, _ => none
  | .stamp stamp => if type = .date then some (.date stamp.date) else none
  | _ => none

/-- The number of a year on Postgres, where the year before the first is minus one. -/
def yearNumber (year : Int) : Int := if 0 < year then year else year - 1

def dayField (date : Date) (field : String) : Option ℚ :=
  if field = "YEAR" then some (yearNumber date.year)
  else if field = "MONTH" then some date.month
  else if field = "DAY" then some date.day
  else if field = "ISODOW" then some date.weekday
  else none

def extract (field : String) : Item → Option Item
  | .value .null => some .null
  | .date date => (dayField date field).map .real
  | .stamp stamp => (dayField stamp.date field).map .real
  | .span seconds => if field = "EPOCH" then some (.real seconds) else none
  | _ => none

def atTimeZone : Item → Item → Option Item
  | .value .null, _ => some .null
  | .value (.other moment), .value (.text zone) => some (.stamp (server.wall moment zone))
  | _, _ => none

def slice : Item → (lower upper : Option Item) → Option Item
  | .texts items, some (.value (.int (.ofNat lower))), none => some (.texts (items.drop (lower - 1)))
  | .texts items, some (.value (.int (.ofNat lower))), some (.value (.int (.ofNat upper))) =>
    some (.texts ((items.take upper).drop (lower - 1)))
  | _, _, _ => none

def pick (greatest : Bool) (a b : Item) : Option Item :=
  (if greatest then a.before? server.dialect b else b.before? server.dialect a).map fun less =>
    if less = some true then b else a

def extremum (greatest : Bool) : List Item → Option Item
  | [] => some .null
  | first :: rest => rest.foldlM (server.pick greatest) first

def applyOrder (function : String) (args : List Item) : Option Item :=
  match function with
  | "GREATEST" => server.extremum true (args.filter (!·.isNull))
  | "LEAST" => server.extremum false (args.filter (!·.isNull))
  | "max" => if args.any Item.isNull then some .null else server.extremum true args
  | "min" => if args.any Item.isNull then some .null else server.extremum false args
  | _ => none

def applyTime (function : String) (args : List Item) : Option Item :=
  match function, args with
  | "date_trunc", [.value (.text unit), .stamp stamp] =>
    if unit = "month".toList then some (.stamp ⟨{ stamp.date with day := 1 }, 0⟩) else none
  | "date", .value scalar :: moves => do
      let time := server.time? scalar (← moves.mapM Item.text?)
      return time.elim .null fun stamp => .text stamp.date.isoText
  | "strftime", .value (.text format) :: .value scalar :: moves => do
      let time := server.time? scalar (← moves.mapM Item.text?)
      time.elim (some .null) fun stamp => (stamp.shown? format).map .text
  | "julianday", [.value scalar] =>
    let time := server.time? scalar []
    some (time.elim .null fun stamp =>
      .real (stamp.date.dayNumber + (1721425 + 1 / 2) + stamp.seconds / 86400))
  | _, _ => none

def lengthOf (cs : List Char) : Nat :=
  match server.dialect with
  | .postgres => cs.length
  | .sqlite => (cs.takeWhile (· != '\x00')).length

def applyText (function : String) (args : List Item) : Option Item :=
  match function, args with
  | "string_to_array", [.value (.text cs), .value (.text separator)] =>
    some (.texts (Chars.fields separator cs))
  | "array_length", [.texts items, .value (.int 1)] =>
    some (if items.isEmpty then .null else .int items.length)
  | "array_to_string", [.texts items, .value (.text separator)] =>
    some (.text (separator.intercalate items))
  | "INSTR", [.value (.text cs), .value (.text needle)] => some (.int (Chars.position needle cs))
  | "LENGTH", [.value (.text cs)] => some (.int (server.lengthOf cs))
  | "SUBSTR", [.value (.text cs), .value (.int start)] =>
    if 1 ≤ start then some (.text (cs.drop (start.toNat - 1))) else none
  | "SUBSTR", [.value (.text cs), .value (.int start), .value (.int count)] =>
    if 1 ≤ start ∧ 0 ≤ count then some (.text ((cs.drop (start.toNat - 1)).take count.toNat))
    else none
  | _, _ => none

def strictFunctions : List String :=
  ["date_trunc", "date", "strftime", "julianday", "array_length", "INSTR", "LENGTH", "SUBSTR"]

def call (function : String) (args : List Item) : Option Item :=
  if strictFunctions.contains function && args.any Item.isNull then some .null
  else
    ((server.applyOrder function args).or (server.applyTime function args)).or
      (server.applyText function args)

noncomputable def interpretation : Interpretation Item where
  null := .null
  isNull := Item.isNull
  bool b := .value (.ofBool server.dialect b)
  number cs := (Decimal.read? cs).map fun decimal => .value (.ofWritten cs decimal)
  text cs := .text cs
  fragment sql := .value (server.toRow.fragment sql)
  call := server.call
  binary := server.binary
  unary := server.unary
  cast := server.cast
  extract := extract
  atTimeZone := server.atTimeZone
  slice := slice
  holds? item := item.scalar?.bind (Value.holds? server.dialect)
  isNull_null := rfl
  holds?_bool b := by cases server.dialect <;> cases b <;> rfl

theorem call_of_filled {args : List Item} (filled : args.any Item.isNull = false)
    (function : String) :
    server.interpretation.call function args =
      ((server.applyOrder function args).or (server.applyTime function args)).or
        (server.applyText function args) := by
  change server.call function args = _
  rw [call, filled, Bool.and_false, if_neg Bool.false_ne_true]

section

variable {server : Server} {frame : Frame Item} {left right : Expr} {m n : Int}

theorem denotes_nat (n : Nat) : (Expr.int n).Denotes server.interpretation frame (.int n) := by
  refine .number ?_
  change (Decimal.read? _).map _ = _
  rw [read?_nat, Option.map_some, ofWritten_nat]

theorem denotes_text (content : String) :
    (Expr.text content).Denotes server.interpretation frame (.text content.toList) :=
  .text content

theorem binary_div (nonzero : n ≠ 0) :
    server.binary .div (.int m) (.int n) = some (.int (m.tdiv n)) := by
  change (Value.divide server.dialect true (.int m) (.int n)).map Item.value = _
  simp [Value.divide, Value.number?, Value.int?, nonzero]

theorem before?_int (dialect : Dialect) (m n : Int) :
    (Item.int m).before? dialect (.int n) = some (some (decide (m < n))) := by
  change some (some (decide ((m : ℚ) < (n : ℚ)))) = _
  simp only [Int.cast_lt]

section

variable {p : Prop} [Decidable p] {a b : Item}

theorem denotes_less (order : a.before? server.dialect b = some (some (decide p)))
    (first : left.Denotes server.interpretation frame a)
    (second : right.Denotes server.interpretation frame b) :
    (left.lt right).Denotes server.interpretation frame
      (server.interpretation.bool (decide p)) := by
  refine .binary first second ?_
  change server.compare (a.before? server.dialect b) false = _
  rw [order]
  rfl

theorem denotes_greater (order : b.before? server.dialect a = some (some (decide p)))
    (first : left.Denotes server.interpretation frame a)
    (second : right.Denotes server.interpretation frame b) :
    (left.gt right).Denotes server.interpretation frame
      (server.interpretation.bool (decide p)) := by
  refine .binary first second ?_
  change server.compare (b.before? server.dialect a) false = _
  rw [order]
  rfl

end

theorem denotes_eqText (first : left.Denotes server.interpretation frame (.text cs))
    (second : right.Denotes server.interpretation frame (.text ds)) :
    (left.eq right).Denotes server.interpretation frame
      (server.interpretation.bool (decide (cs = ds))) := by
  refine .binary first second ?_
  rw [← beq_eq_decide]
  rfl

theorem denotes_isNull {e : Expr} (value : e.Denotes server.interpretation frame a) :
    e.isNull.Denotes server.interpretation frame
      (server.interpretation.bool (decide (a.isNull = true))) := by
  have test := Expr.Denotes.nullTest false value
  rw [Bool.bne_false] at test
  rw [Bool.decide_eq_true]
  exact test

section

variable {p q : Prop} [Decidable p] [Decidable q]
  (first : left.Denotes server.interpretation frame (server.interpretation.bool (decide p)))
  (second : right.Denotes server.interpretation frame (server.interpretation.bool (decide q)))

include first second

theorem denotes_and :
    (left.and right).Denotes server.interpretation frame
      (server.interpretation.bool (decide (p ∧ q))) := by
  refine .binary first second ?_
  rw [Bool.decide_and]
  change (Row.binary server.toRow .and true (.ofBool server.toRow.dialect (decide p))
    (.ofBool server.toRow.dialect (decide q))).map Item.value =
      some (.value (.ofBool server.toRow.dialect (decide p && decide q)))
  rw [Row.binary]
  cases server.toRow.dialect <;> cases decide p <;> cases decide q <;> rfl

theorem denotes_or :
    (left.or right).Denotes server.interpretation frame
      (server.interpretation.bool (decide (p ∨ q))) := by
  refine .binary first second ?_
  rw [Bool.decide_or]
  change (Row.binary server.toRow .or true (.ofBool server.toRow.dialect (decide p))
    (.ofBool server.toRow.dialect (decide q))).map Item.value =
      some (.value (.ofBool server.toRow.dialect (decide p || decide q)))
  rw [Row.binary]
  cases server.toRow.dialect <;> cases decide p <;> cases decide q <;> rfl

end

theorem denotes_castInteger {e : Expr} (postgres : server.dialect = .postgres)
    (value : e.Denotes server.interpretation frame (.real n)) :
    (e.cast .integer).Denotes server.interpretation frame (.int n) := by
  refine .cast value ?_
  change server.cast .integer (.real n) = _
  simp only [Server.cast, postgres, castInteger, Rat.den_intCast, Rat.num_intCast]
  rfl

theorem denotes_castWhole {e : Expr} (sqlite : server.dialect = .sqlite)
    (value : e.Denotes server.interpretation frame (.value scalar)) :
    (e.cast .integer).Denotes server.interpretation frame (.value scalar.castWhole) := by
  refine .cast value ?_
  change server.cast .integer (.value scalar) = _
  simp only [Server.cast, sqlite]

theorem denotes_castDouble {e : Expr}
    (value : e.Denotes server.interpretation frame (.int n)) :
    (e.cast .double).Denotes server.interpretation frame (.real n) :=
  .cast value rfl

theorem denotes_ite [Decidable p] {condition : Expr}
    (test : condition.Denotes server.interpretation frame (server.interpretation.bool (decide p)))
    (first : left.Denotes server.interpretation frame (.int m))
    (second : right.Denotes server.interpretation frame (.int n)) :
    (Expr.ite condition left right).Denotes server.interpretation frame
      (.int (if p then m else n)) :=
  .ite test (fun holds => by rwa [if_pos holds]) fun other => by rwa [if_neg other]

theorem denotes_extreme (greatest : Bool) (first : left.Denotes server.interpretation frame a)
    (second : right.Denotes server.interpretation frame b) (filled : a.isNull = false)
    (filledToo : b.isNull = false)
    (order : (if greatest then a.before? server.dialect b else b.before? server.dialect a) =
      some (some swap)) :
    (if greatest then server.dialect.greatest [left, right]
      else server.dialect.least [left, right]).Denotes server.interpretation frame
      (if swap then b else a) := by
  have args := List.Forall₂.cons first (.cons second .nil)
  have kept : [a, b].filter (!·.isNull) = [a, b] := by simp [filled, filledToo]
  have known : [a, b].any Item.isNull = false := by simp [filled, filledToo]
  have result : server.extremum greatest [a, b] = some (if swap then b else a) := by
    change server.pick greatest a b >>= pure = _
    rw [bind_pure, pick, order]
    cases swap <;> rfl
  cases dialect : server.dialect with
  | postgres =>
    cases greatest
    all_goals
      refine .call (by decide) args ((server.call_of_filled known _).trans ?_)
      rw [applyOrder, kept, result]
      rfl
  | sqlite =>
    cases greatest
    all_goals
      refine .call (by decide) args ((server.call_of_filled known _).trans ?_)
      rw [applyOrder, known, if_neg Bool.false_ne_true, result]
      rfl

section

variable (first : left.Denotes server.interpretation frame (.int m))
  (second : right.Denotes server.interpretation frame (.int n))

include first second

theorem denotes_add : (left + right).Denotes server.interpretation frame (.int (m + n)) :=
  .binary first second rfl

theorem denotes_sub : (left - right).Denotes server.interpretation frame (.int (m - n)) :=
  .binary first second rfl

theorem denotes_mul : (left * right).Denotes server.interpretation frame (.int (m * n)) :=
  .binary first second rfl

theorem denotes_div (nonzero : n ≠ 0) :
    (left / right).Denotes server.interpretation frame (.int (m.tdiv n)) :=
  .binary first second (binary_div nonzero)

theorem denotes_mod (nonzero : n ≠ 0) :
    (left % right).Denotes server.interpretation frame (.int (m.tmod n)) := by
  refine .binary first second ?_
  change (Value.remainder? server.dialect (.int m) (.int n)).map Item.value = _
  simp [Value.remainder?, Value.int?, nonzero]

theorem denotes_lt :
    (left.lt right).Denotes server.interpretation frame
      (server.interpretation.bool (decide (m < n))) :=
  denotes_less (before?_int server.dialect m n) first second

theorem denotes_gt :
    (left.gt right).Denotes server.interpretation frame
      (server.interpretation.bool (decide (n < m))) :=
  denotes_greater (before?_int server.dialect n m) first second

theorem denotes_ge :
    (left.ge right).Denotes server.interpretation frame
      (server.interpretation.bool (decide (n ≤ m))) := by
  refine .binary first second ?_
  change server.compare ((Item.int m).before? server.dialect (.int n)) true = _
  rw [before?_int, decide_eq_decide.2 Int.not_lt.symm, decide_not]
  rfl

theorem denotes_le :
    (left.le right).Denotes server.interpretation frame
      (server.interpretation.bool (decide (m ≤ n))) := by
  refine .binary first second ?_
  change server.compare ((Item.int n).before? server.dialect (.int m)) true = _
  rw [before?_int, decide_eq_decide.2 Int.not_lt.symm, decide_not]
  rfl

theorem denotes_eq :
    (left.eq right).Denotes server.interpretation frame
      (server.interpretation.bool (decide (m = n))) := by
  refine .binary first second ?_
  have same : ((m : ℚ) == (n : ℚ)) = decide (m = n) := by
    rw [beq_eq_decide]
    simp only [Int.cast_inj]
  rw [← same]
  rfl

theorem denotes_greatest :
    (server.dialect.greatest [left, right]).Denotes server.interpretation frame
      (.int (max m n)) := by
  have found := denotes_extreme true first second rfl rfl (before?_int server.dialect m n)
  rw [if_pos rfl] at found
  split at found
  · next less => rwa [max_eq_right (of_decide_eq_true less).le]
  · next other => rwa [max_eq_left (Int.not_lt.1 (of_decide_eq_false (eq_false_of_ne_true other)))]

theorem denotes_least :
    (server.dialect.least [left, right]).Denotes server.interpretation frame
      (.int (min m n)) := by
  have found := denotes_extreme false first second rfl rfl (before?_int server.dialect n m)
  rw [if_neg Bool.false_ne_true] at found
  split at found
  · next less => rwa [min_eq_right (of_decide_eq_true less).le]
  · next other => rwa [min_eq_left (Int.not_lt.1 (of_decide_eq_false (eq_false_of_ne_true other)))]

end

end

end Server

/-- A server whose moments are midnights, written as days and the same in all zones. -/
def Server.ofDays (dialect : Dialect) (value : String → Value) : Server where
  dialect := dialect
  value := value
  shown := fun _ => []
  wall := fun moment _ => ⟨(Date.ofIso? moment).getD ⟨1, 1, 1⟩, 0⟩
  time? := fun value _ => (Item.value value).text?.bind fun cs => (Date.ofIso? cs).map (⟨·, 0⟩)
  wall_isTime := by
    intro moment _
    refine ⟨?_, le_rfl, by norm_num⟩
    cases read : Date.ofIso? moment with
    | none => exact ⟨le_rfl, by decide, le_rfl, by decide⟩
    | some date => exact (Date.isShown_of_ofIso? read).toIsReal
  time?_isShown := by
    intro value _ stamp found
    obtain ⟨cs, -, read⟩ := Option.bind_eq_some_iff.1 found
    obtain ⟨date, isDate, rfl⟩ := Option.map_eq_some_iff.1 read
    have shown := Date.isShown_of_ofIso? isDate
    exact ⟨⟨shown.toIsReal, le_rfl, by norm_num⟩, shown.year_nonneg, shown.year_le, 0, by simp⟩
  time?_isoText := by
    intro date shown
    change (Date.ofIso? date.isoText).map _ = _
    rw [Date.ofIso?_isoText shown, Option.map_some]

end SheetSql
