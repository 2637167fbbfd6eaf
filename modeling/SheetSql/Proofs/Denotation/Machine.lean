import Mathlib.Algebra.Order.Floor.Ring
import Mathlib.Data.List.DropRight
import Mathlib.Data.List.ReduceOption
import Mathlib.Data.Rat.Floor
import SheetSql.Proofs.Denotation.Evaluation
import SheetSql.Proofs.Meaning.Division
import SheetSql.Proofs.Meaning.Run
import SheetSql.Proofs.Query.Database

namespace SheetSql

/-!
Engines that compute with integers of 32 bits. Where arithmetic or a cast leads beyond them there is
no value, and neither is there one where a text of a negative length is cut out.
-/

def truncated (q : ℚ) : Int := if 0 ≤ q then ⌊q⌋ else ⌈q⌉

namespace Chars

/-- The characters from a position on, as many as a count says, those before the text included. -/
def window (cs : List Char) (start count : Int) : List Char :=
  (cs.take (start + count - 1).toNat).drop (start - 1).toNat

end Chars

def IsSmall (n : Int) : Prop := -2147483648 ≤ n ∧ n ≤ 2147483647

instance (n : Int) : Decidable (IsSmall n) := inferInstanceAs (Decidable (_ ∧ _))

def Value.small? : Value → Option Value
  | .int n => if IsSmall n then some (.int n) else none
  | value => some value

theorem Value.small?_int (small : IsSmall n) : (Value.int n).small? = some (.int n) :=
  if_pos small

theorem Value.small?_ofBool (dialect : Dialect) (b : Bool) :
    (Value.ofBool dialect b).small? = some (.ofBool dialect b) := by
  cases dialect <;> cases b <;> rfl

structure Machine extends Row where
  lower : List Char → List Char
  maxLength : Nat
  maxLength_lt : maxLength < 2147483647

namespace Machine

variable (machine : Machine)

def pick (greatest : Bool) (a b : Value) : Option Value :=
  (a.less? b).map fun less => if less = some greatest then b else a

def extremum (greatest : Bool) : List Value → Option Value
  | [] => some .null
  | first :: rest => rest.foldlM (pick greatest) first

/--
The greatest or the least of some arguments. Postgres leaves out nulls, and SQLite has a null as
soon as there is one. With one argument it is a function of several rows on SQLite.
-/
def applyOrder (greatest : Bool) (args : List Value) : Option Value :=
  match machine.dialect with
  | .postgres => if args = [] then none else extremum greatest (args.filter (· ≠ .null))
  | .sqlite =>
    if args.length < 2 then none
    else if .null ∈ args then some .null
    else extremum greatest args

def order? (function : String) : Option Bool :=
  match machine.dialect with
  | .postgres => [("GREATEST", true), ("LEAST", false)].lookup function
  | .sqlite => [("max", true), ("min", false)].lookup function

/--
A part of a text. SQLite stops at a null character, counts a negative position from the end and
takes the greatest length for one that is left out.
-/
def slice (cs : List Char) (start : Int) (count : Option Int) : List Char :=
  match machine.dialect with
  | .postgres => count.elim (cs.drop (start - 1).toNat) (Chars.window cs start)
  | .sqlite =>
    let seen := cs.takeWhile (· != '\x00')
    Chars.window seen (if start < 0 then seen.length + 1 + start else start)
      (count.getD machine.maxLength)

def strictFunctions : List String := ["SUBSTR", "RIGHT", "STRPOS", "INSTR", "LOWER", "TRUNC"]

def applyFilled (function : String) (args : List Value) : Option Value :=
  match function, args with
  | "SUBSTR", [.text cs, .int start] => some (.text (machine.slice cs start none))
  | "SUBSTR", [.text cs, .int start, .int count] =>
    if 0 ≤ count then some (.text (machine.slice cs start (some count))) else none
  | "RIGHT", [.text cs, .int count] =>
    if machine.dialect = .postgres ∧ 0 ≤ count then some (.text (cs.rtake count.toNat)) else none
  | "STRPOS", [.text cs, .text needle] =>
    if machine.dialect = .postgres then some (.int (Chars.position needle cs)) else none
  | "INSTR", [.text cs, .text needle] =>
    if machine.dialect = .sqlite then some (.int (Chars.position needle cs)) else none
  | "LOWER", [.text cs] => some (.text (machine.lower cs))
  | "TRUNC", [value] =>
    if machine.dialect = .postgres then value.number?.map fun q => .real (truncated q) else none
  | _, _ => Value.apply function args

def call (function : String) (args : List Value) : Option Value :=
  match machine.order? function with
  | some greatest => machine.applyOrder greatest args
  | none =>
    if strictFunctions.contains function && args.contains .null then some .null
    else machine.applyFilled function args

/-- A cast. Postgres rounds a number with a fraction, which is left open. -/
def cast (type : SqlType) (value : Value) : Option Value :=
  match type, machine.dialect, value with
  | .integer, .postgres, .real q => if q.den = 1 then some (.int q.num) else none
  | .integer, .postgres, value => value.castInteger
  | .integer, .sqlite, value => some value.castWhole
  | type, _, value => machine.toRow.cast value type

noncomputable def interpretation : Interpretation Value where
  null := .null
  isNull value := decide (value = .null)
  bool b := .ofBool machine.dialect b
  number digits := (Decimal.read? digits).map (Value.ofWritten digits)
  text := .text
  fragment := machine.toRow.fragment
  call := machine.call
  binary op a b := (machine.toRow.binary op true a b).bind Value.small?
  unary op a := (machine.toRow.unary op a).bind Value.small?
  cast type a := (machine.cast type a).bind Value.small?
  extract _ _ := none
  atTimeZone _ _ := none
  slice _ _ _ := none
  holds? := Value.truth? machine.dialect
  isNull_null := rfl
  holds?_bool b := truth?_ofTruth machine.dialect (some b)

/-- The engine has every result of the machine, and perhaps functions and casts beyond them. -/
class Underlies (machine : outParam Machine) (engine : Interpretation Value) : Prop where
  null : engine.null = .null
  isNull : ∀ v, engine.isNull v = decide (v = .null)
  bool : ∀ b, engine.bool b = .ofBool machine.dialect b
  number : ∀ digits, engine.number digits = machine.interpretation.number digits
  fragment : ∀ sql, engine.fragment sql = machine.fragment sql
  call : ∀ {function args v}, machine.call function args = some v →
    engine.call function args = some v
  binary : ∀ op a b, engine.binary op a b = machine.interpretation.binary op a b
  unary : ∀ op a, engine.unary op a = machine.interpretation.unary op a
  cast : ∀ {type a v}, machine.interpretation.cast type a = some v → engine.cast type a = some v

instance : machine.Underlies machine.interpretation where
  null := rfl
  isNull _ := rfl
  bool _ := rfl
  number _ := rfl
  fragment _ := rfl
  call := id
  binary _ _ _ := rfl
  unary _ _ := rfl
  cast := id

end Machine

theorem truncated_intCast (n : Int) : truncated n = n := by
  unfold truncated
  split
  · exact Int.floor_intCast n
  · exact Int.ceil_intCast n

theorem tdiv_eq_truncated (q : ℚ) : q.num.tdiv q.den = truncated q := by
  unfold truncated
  split
  · next nonneg =>
      rw [Int.tdiv_eq_ediv_of_nonneg (Rat.num_nonneg.2 nonneg)]
      exact (Rat.floor_def q).symm
  · next negative =>
      have positive : 0 ≤ -q.num := by
        have := Rat.num_neg.2 (not_le.1 negative)
        omega
      have divided : (-q.num).tdiv q.den = ⌊-q⌋ := by
        rw [Int.tdiv_eq_ediv_of_nonneg positive]
        exact (Rat.floor_def (-q)).symm
      rw [← neg_neg ⌈q⌉, ← Int.floor_neg, ← divided, Int.neg_tdiv, neg_neg]

theorem truncated_mono (least : p ≤ q) : truncated p ≤ truncated q := by
  unfold truncated
  split <;> split
  · exact Int.floor_mono least
  · next nonneg negative => exact absurd (nonneg.trans least) negative
  · next negative nonneg =>
      exact (Int.ceil_le.2 (not_le.1 negative).le).trans (Int.floor_nonneg.2 nonneg)
  · exact Int.ceil_mono least

theorem truncated_bounded (low high : Int) (q : ℚ) :
    truncated (max (min q high) low) = max low (min (truncated q) high) := by
  have mono : Monotone truncated := fun _ _ => truncated_mono
  rw [mono.map_max, mono.map_min, truncated_intCast, truncated_intCast, max_comm]

theorem toList_neg (n : Nat) : (toString (Int.negSucc n)).toList = '-' :: Nat.toDigits 10 (n + 1) := by
  change ("-" ++ (n + 1).repr).toList = _
  rw [String.toList_append, Nat.repr_eq_ofList_toDigits, String.toList_ofList,
    String.toList_ofList, List.singleton_append]

theorem number_neg (n : Nat) :
    (Decimal.read? (toString (Int.negSucc n)).toList).map
        (Value.ofWritten (toString (Int.negSucc n)).toList) =
      some (.int (Int.negSucc n)) := by
  have digit : ∀ c ∈ Nat.toDigits 10 (n + 1), c.isDigit = true := fun _ => Regex.isDigit_toDigits
  let number : Written :=
    ⟨some true, Nat.toDigits 10 (n + 1), none, none, List.all_eq_true.2 digit, rfl,
      .inl Nat.toDigits_ne_nil⟩
  have text : number.text = '-' :: Nat.toDigits 10 (n + 1) := by
    simp [number, Written.text, Written.signText, Written.mantissa, Written.fractionText,
      Written.powerText]
  have decimal : number.decimal = ⟨true, n + 1, 0⟩ := by
    simp [number, Written.decimal, Written.exponent, Regex.natOf_toDigits]
  have plain : (('-' :: Nat.toDigits 10 (n + 1)).all fun c => c.isDigit || c == '-' || c == '+') =
      true := by
    refine List.all_eq_true.2 fun c member => ?_
    obtain rfl | member := List.mem_cons.1 member
    · rfl
    · rw [digit c member]
      rfl
  rw [toList_neg, ← text, number.read?_text, decimal, Option.map_some, text, Value.ofWritten,
    if_pos plain]
  rfl

namespace Value

variable {a b : Value} {p q : ℚ}

theorem less?_of_number? (first : a.number? = some p) (second : b.number? = some q) :
    a.less? b = some (some (decide (p < q))) := by
  obtain rfl | ⟨m, rfl, rfl⟩ := isNumber_of_number? first
  · obtain rfl | ⟨n, rfl, rfl⟩ := isNumber_of_number? second <;> rfl
  · obtain rfl | ⟨n, rfl, rfl⟩ := isNumber_of_number? second <;> rfl

theorem ne_null_of_number? (number : a.number? = some p) : a ≠ .null := by
  rintro rfl
  cases number

end Value

namespace Machine

def better (greatest : Bool) (p q : ℚ) : ℚ := if greatest then max p q else min p q

def best? (greatest : Bool) (numbers : List ℚ) : Option ℚ :=
  if greatest then numbers.max? else numbers.min?

theorem best?_cons (greatest : Bool) (p : ℚ) (numbers : List ℚ) :
    best? greatest (p :: numbers) = some (numbers.foldl (better greatest) p) := by
  cases greatest with
  | true => exact List.max?_cons'
  | false => exact List.min?_cons'

theorem pick_eq (greatest : Bool) {a b : Value} (first : a.number? = some p)
    (second : b.number? = some q) :
    ∃ c, pick greatest a b = some c ∧ c.number? = some (better greatest p q) := by
  rw [pick, Value.less?_of_number? first second, Option.map_some]
  refine ⟨_, rfl, ?_⟩
  by_cases below : p < q
  · rw [decide_eq_true below]
    cases greatest with
    | true => exact second.trans (congrArg some (max_eq_right below.le).symm)
    | false => exact first.trans (congrArg some (min_eq_left below.le).symm)
  · rw [decide_eq_false below]
    cases greatest with
    | true => exact first.trans (congrArg some (max_eq_left (not_lt.1 below)).symm)
    | false => exact second.trans (congrArg some (min_eq_right (not_lt.1 below)).symm)

def AreNumbers (values : List Value) (numbers : List ℚ) : Prop :=
  List.Forall₂ (fun v q => v.number? = some q) values numbers

theorem extremum_eq (greatest : Bool) (each : AreNumbers values numbers) :
    ∃ c, extremum greatest values = some c ∧ c.Denotes (best? greatest numbers) := by
  cases each with
  | nil => exact ⟨.null, rfl, by cases greatest <;> rfl⟩
  | @cons v q values numbers first rest =>
    rw [best?_cons]
    change ∃ c, values.foldlM (pick greatest) v = some c ∧
      c.number? = some (numbers.foldl (better greatest) q)
    -- The first value is that of the arguments so far.
    induction rest generalizing v q with
    | nil => exact ⟨v, rfl, first⟩
    | cons next _ ih =>
      obtain ⟨c, picked, number⟩ := pick_eq greatest first next
      obtain ⟨d, folded, result⟩ := ih number
      exact ⟨d, by rw [List.foldlM_cons, picked]; exact folded, result⟩

theorem AreNumbers.ne_null (each : AreNumbers values numbers) (member : v ∈ values) :
    v ≠ .null := by
  obtain ⟨i, bound, rfl⟩ := List.getElem_of_mem member
  exact Value.ne_null_of_number? (List.Forall₂.get each bound (each.length_eq ▸ bound))

theorem applyOrder_eq_extremum (machine : Machine) (greatest : Bool)
    (filled : ∀ v ∈ values, v ≠ .null) (several : 2 ≤ values.length) :
    machine.applyOrder greatest values = extremum greatest values := by
  have some : values ≠ [] := List.ne_nil_of_length_pos (by omega)
  have kept : values.filter (· ≠ .null) = values :=
    List.filter_eq_self.2 fun v member => decide_eq_true (filled v member)
  have absent : .null ∉ values := fun member => filled _ member rfl
  unfold applyOrder
  cases machine.dialect with
  | postgres => exact (if_neg some).trans (congrArg (extremum greatest) kept)
  | sqlite => exact (if_neg (by omega)).trans (if_neg absent)

theorem applyOrder_pair (machine : Machine) (greatest : Bool) {a b : Value}
    (first : a.number? = some p) (second : b.number? = some q) :
    ∃ c, machine.applyOrder greatest [a, b] = some c ∧
      c.number? = some (better greatest p q) := by
  have numbers : AreNumbers [a, b] [p, q] := .cons first (.cons second .nil)
  rw [applyOrder_eq_extremum machine greatest (fun v member => numbers.ne_null member) le_rfl]
  obtain ⟨c, found, denotes⟩ := extremum_eq greatest numbers
  rw [best?_cons] at denotes
  exact ⟨c, found, denotes⟩

theorem applyOrder_ints (machine : Machine) (greatest : Bool) (m n : Int) :
    machine.applyOrder greatest [.int m, .int n] =
      some (.int (if greatest then max m n else min m n)) := by
  rw [applyOrder_eq_extremum machine greatest (by simp) le_rfl]
  change (pick greatest (.int m) (.int n)).bind some = _
  rw [pick, Value.less?_of_number? rfl rfl, Option.map_some, Option.bind_some]
  simp only [Int.cast_lt]
  cases greatest with
  | true => by_cases below : m < n <;> simp [below] <;> omega
  | false => by_cases below : m < n <;> simp [below] <;> omega

variable {machine : Machine}

theorem order?_eq_none (other : function ∉ ["GREATEST", "LEAST", "max", "min"]) :
    machine.order? function = none := by
  simp only [List.mem_cons, List.not_mem_nil, or_false, not_or] at other
  unfold order?
  cases machine.dialect with
  | postgres => simp [List.lookup_eq_none_iff, other]
  | sqlite => simp [List.lookup_eq_none_iff, other]

theorem call_eq_applyFilled (other : function ∉ ["GREATEST", "LEAST", "max", "min"])
    (filled : .null ∉ args) : machine.call function args = machine.applyFilled function args := by
  rw [call, order?_eq_none other]
  exact if_neg (by simp [filled])

theorem cast_real (dialect : machine.dialect = .postgres) (n : Int) :
    machine.cast .integer (.real n) = some (.int n) := by
  unfold cast
  rw [dialect]
  exact if_pos (Rat.den_intCast n)

theorem cast_whole (dialect : machine.dialect = .sqlite) (v : Value) :
    machine.cast .integer v = some v.castWhole := by
  unfold cast
  rw [dialect]

variable {engine : Interpretation Value} [underlies : machine.Underlies engine]
  {evaluation : Evaluation engine}

include underlies

theorem denotes_firstFilled (each : List.Forall₂ Value.Denotes values xs) :
    (Evaluation.firstFilled engine values).Denotes xs.reduceOption.head? := by
  induction each with
  | nil => exact Underlies.null
  | @cons v x values xs first _ ih =>
    cases x with
    | none =>
      cases first
      rw [Evaluation.firstFilled, List.find?_cons_of_neg (by simp [Underlies.isNull])]
      exact ih
    | some q =>
      have filled : engine.isNull v = false :=
        (Underlies.isNull v).trans (decide_eq_false (Value.ne_null_of_number? first))
      rw [Evaluation.firstFilled, List.find?_cons_of_pos (by simp [filled]),
        List.reduceOption_cons_of_some]
      exact first

theorem number?_orElse {v : Value} (denotes : v.Denotes x) (n : Int) :
    (Evaluation.firstFilled engine [v, .int n]).number? = some (x.getD n) := by
  have either : List.Forall₂ Value.Denotes [v, .int n] [x, some (n : ℚ)] :=
    .cons denotes (.cons rfl .nil)
  have first : (Evaluation.firstFilled engine _).Denotes _ := denotes_firstFilled either
  cases x with
  | none => exact first
  | some q => exact first

theorem gives_int (n : Int) : evaluation.Gives (.int n) (.int n) := by
  have read : machine.interpretation.number (toString n).toList = some (.int n) := by
    cases n with
    | ofNat n => exact (congrArg (Option.map _) (read?_nat n)).trans (congrArg some (ofWritten_nat n))
    | negSucc n => exact number_neg n
  exact (evaluation.number _).trans ((Underlies.number _).trans read)

theorem gives_nat (n : Nat) : evaluation.Gives (.int n) (.int n) := gives_int n

theorem gives_operator (first : evaluation.Gives left a) (second : evaluation.Gives right b)
    (result : machine.interpretation.binary op a b = some v) :
    evaluation.Gives (.binary left op right) v :=
  Evaluation.gives_binary first second ((Underlies.binary op a b).trans result)

theorem gives_add (first : evaluation.Gives left (.int m))
    (second : evaluation.Gives right (.int n)) (small : IsSmall (m + n)) :
    evaluation.Gives (left + right) (.int (m + n)) :=
  gives_operator first second (Value.small?_int small)

theorem gives_sub (first : evaluation.Gives left (.int m))
    (second : evaluation.Gives right (.int n)) (small : IsSmall (m - n)) :
    evaluation.Gives (left - right) (.int (m - n)) :=
  gives_operator first second (Value.small?_int small)

theorem gives_div {left right : Expr} {m n : Nat} (first : evaluation.Gives left (.int m))
    (second : evaluation.Gives right (.int n)) (positive : 0 < n) (small : IsSmall m) :
    evaluation.Gives (left / right) (.int (m / n : Nat)) := by
  have filled : (Value.int n).number? ≠ some 0 := by
    change some (((n : Int) : ℚ)) ≠ some 0
    simpa using positive.ne'
  have divided : Value.divide machine.dialect true (.int m) (.int n) = some (.int (m / n : Nat)) := by
    unfold Value.divide
    rw [if_neg (by simp), if_neg filled]
    exact if_pos (.inr rfl)
  refine gives_operator first second ?_
  change (Value.divide machine.dialect true (.int m) (.int n)).bind Value.small? = _
  rw [divided]
  refine Value.small?_int ?_
  have least := Int.natCast_nonneg (m / n)
  have most := Nat.div_le_self m n
  unfold IsSmall at small ⊢
  omega

theorem gives_neg (value : evaluation.Gives operand (.int n)) (small : IsSmall (-n)) :
    evaluation.Gives (-operand) (.int (-n)) := by
  refine Evaluation.gives_unary value ((Underlies.unary .neg (.int n)).trans ?_)
  change (Value.int (0 - n)).small? = some (.int (-n))
  rw [Int.zero_sub, Value.small?_int small]

theorem gives_eq {left right : Expr} {m n : Int} (first : evaluation.Gives left (.int m))
    (second : evaluation.Gives right (.int n)) :
    evaluation.Gives (left.eq right) (engine.bool (decide (m = n))) := by
  refine gives_operator first second ?_
  change (Value.ofBool machine.dialect ((m : ℚ) == n)).small? = _
  rw [Value.small?_ofBool, Bool.beq_eq_decide_eq, Underlies.bool]
  simp only [Int.cast_inj]

theorem gives_double (found : machine.fragment sql = v)
    (double : v.castDouble machine.dialect = some w) (real : w.int? = none) :
    evaluation.Gives ((Expr.fragment sql).cast .double) w := by
  subst found
  have written : evaluation.Gives (.fragment sql) (machine.fragment sql) :=
    (evaluation.fragment sql).trans (congrArg some (Underlies.fragment sql))
  refine Evaluation.gives_cast written (Underlies.cast ?_)
  change ((machine.fragment sql).castDouble machine.dialect).bind Value.small? = some w
  rw [double]
  cases w with
  | int n => cases real
  | null | bool _ | real _ | text _ | other _ => rfl

theorem gives_order (found : machine.order? function = some greatest)
    (other : function ≠ "COALESCE") (each : List.Forall₂ evaluation.Gives args values)
    (result : machine.applyOrder greatest values = some v) :
    evaluation.Gives (.call function args) v := by
  refine Evaluation.gives_call other each (Underlies.call ?_)
  rw [call, found]
  exact result

theorem gives_greatest (each : List.Forall₂ evaluation.Gives args values)
    (result : machine.applyOrder true values = some v) :
    evaluation.Gives (machine.dialect.greatest args) v := by
  unfold Dialect.greatest
  cases dialect : machine.dialect with
  | postgres => exact gives_order (by rw [order?, dialect]; decide) (by decide) each result
  | sqlite => exact gives_order (by rw [order?, dialect]; decide) (by decide) each result

theorem gives_least (each : List.Forall₂ evaluation.Gives args values)
    (result : machine.applyOrder false values = some v) :
    evaluation.Gives (machine.dialect.least args) v := by
  unfold Dialect.least
  cases dialect : machine.dialect with
  | postgres => exact gives_order (by rw [order?, dialect]; decide) (by decide) each result
  | sqlite => exact gives_order (by rw [order?, dialect]; decide) (by decide) each result

theorem gives_applyFilled (other : function ∉ ["COALESCE", "GREATEST", "LEAST", "max", "min"])
    (each : List.Forall₂ evaluation.Gives args values) (filled : .null ∉ values)
    (result : machine.applyFilled function values = some v) :
    evaluation.Gives (.call function args) v :=
  Evaluation.gives_call (List.ne_of_not_mem_cons other) each
    (Underlies.call ((call_eq_applyFilled (List.not_mem_of_not_mem_cons other) filled).trans result))

theorem gives_position (first : evaluation.Gives haystack (.text cs))
    (second : evaluation.Gives needle (.text ds)) :
    evaluation.Gives (machine.dialect.position haystack needle) (.int (Chars.position ds cs)) := by
  unfold Dialect.position
  cases dialect : machine.dialect with
  | postgres =>
    exact gives_applyFilled (by decide) (.cons first (.cons second .nil)) (by simp)
      (if_pos dialect)
  | sqlite =>
    exact gives_applyFilled (by decide) (.cons first (.cons second .nil)) (by simp)
      (if_pos dialect)

theorem gives_slice (first : evaluation.Gives operand (.text cs))
    (second : evaluation.Gives start (.int m)) (third : evaluation.Gives count (.int n))
    (nonneg : 0 ≤ n) :
    evaluation.Gives (.call "SUBSTR" [operand, start, count])
      (.text (machine.slice cs m (some n))) :=
  gives_applyFilled (by decide) (.cons first (.cons second (.cons third .nil))) (by simp)
    (if_pos nonneg)

theorem gives_sliceFrom (first : evaluation.Gives operand (.text cs))
    (second : evaluation.Gives start (.int m)) :
    evaluation.Gives (.call "SUBSTR" [operand, start]) (.text (machine.slice cs m none)) :=
  gives_applyFilled (by decide) (.cons first (.cons second .nil)) (by simp) rfl

def blank (dialect : Dialect) : Machine where
  dialect
  value := fun _ => .null
  isInteger := fun _ => false
  shown := fun _ => []
  lower := id
  maxLength := 1000000000
  maxLength_lt := by decide

end Machine

section

variable {machine : Machine}

/-- What an argument or a call is compiled to has the value. -/
def Evaluation.Finds (evaluation : Evaluation machine.interpretation)
    (compiled : Except Error Expr) (v : Value) : Prop :=
  ∃ e, compiled = .ok e ∧ evaluation.Gives e v

def Evaluation.FindsNumber (evaluation : Evaluation machine.interpretation)
    (compiled : Except Error Expr) (x : Option ℚ) : Prop :=
  ∃ v : Value, evaluation.Finds compiled v ∧ v.Denotes x

def Call.Renders (call : Call) (evaluation : Evaluation machine.interpretation) (v : Value) : Prop :=
  ∃ e, call.target.renderOperation call.job call.operation call.args call.hints =
      .ok (e.print call.dialect) ∧
    evaluation.Gives e v

theorem Call.renders_of_finds {call : Call} {evaluation : Evaluation machine.interpretation}
    (checked : Target.check call.operation call.args call.hints = .ok ())
    (finds : evaluation.Finds call.compile v) : call.Renders evaluation v := by
  obtain ⟨e, compiled, value⟩ := finds
  exact ⟨e, renderOperation_of_compile checked compiled, value⟩

end

end SheetSql
