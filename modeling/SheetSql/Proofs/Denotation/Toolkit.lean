import SheetSql.Proofs.Number.Grid
import SheetSql.Proofs.Slicing.Position

namespace SheetSql

/-!
Machines with more functions: lengths and repetitions of texts, blobs of zeros, and the functions
that bring a number to a grid.
-/

structure Toolkit extends Machine where
  /-- The functions that are neither the machine's nor among those below. -/
  others : String → List Value → Option Value

namespace Toolkit

variable (kit : Toolkit)

def lengthOf (cs : List Char) : Nat :=
  match kit.dialect with
  | .postgres => cs.length
  | .sqlite => (cs.takeWhile (· != '\x00')).length

/-- A blob of zeros in hexadecimal, two digits for each, after `X` and between quotes. -/
def quotedZeros (count : Nat) : List Char :=
  'X' :: '\x27' :: (List.replicate (2 * count) '0' ++ ['\x27'])

def roundTo (places : Int) (q : ℚ) : ℚ := nearest (q * 10 ^ places) / 10 ^ places

/--
The functions on top of the machine's. The blobs that SQLite quotes are those of zeros. It has no
negative places and counts them as none, and its sign of a number is an integer.
-/
def apply (function : String) (args : List Value) : Option Value :=
  match function, args with
  | "LENGTH", [.text cs] => some (.int (kit.lengthOf cs))
  | "REPEAT", [.text cs, .int count] =>
    if kit.dialect = .postgres then some (.text (List.replicate count.toNat cs).flatten) else none
  | "ZEROBLOB", [.int count] =>
    if kit.dialect = .sqlite then some (.other (List.replicate count.toNat '\x00')) else none
  | "QUOTE", [.other cs] =>
    if kit.dialect = .sqlite ∧ cs = List.replicate cs.length '\x00' then
      some (.text (quotedZeros cs.length))
    else none
  | "ABS", [.real q] => some (.real |q|)
  | "CEIL", [.real q] => some (.real ⌈q⌉)
  | "FLOOR", [.real q] => some (.real ⌊q⌋)
  | "SIGN", [.real q] =>
    some (if kit.dialect = .sqlite then .int (SignType.sign q) else .real (SignType.sign q))
  | "ROUND", [.real q] => some (.real (nearest q))
  | "ROUND", [.real q, .int places] =>
    some (.real (roundTo (if kit.dialect = .sqlite then max 0 places else places) q))
  | "POWER", [.real q, .int exponent] => if q = 0 then none else some (.real (q ^ exponent))
  | _, _ => none

def call (function : String) (args : List Value) : Option Value :=
  (kit.toMachine.call function args).or ((kit.apply function args).or (kit.others function args))

noncomputable def cast (type : SqlType) (value : Value) : Option Value :=
  match type, kit.dialect, value with
  | .numeric, .postgres, .int n => some (.real n)
  | .numeric, .postgres, .real q => some (.real q)
  | type, _, value => kit.toMachine.interpretation.cast type value

noncomputable def interpretation : Interpretation Value :=
  { kit.toMachine.interpretation with call := kit.call, cast := kit.cast }

theorem cast_of_machine (result : kit.toMachine.interpretation.cast type a = some v) :
    kit.cast type a = some v := by
  cases type with
  | numeric => cases a <;> cases result
  | double | integer | text | timestamp | timestampTz | date | jsonb => exact result

instance : kit.toMachine.Underlies kit.interpretation where
  null := rfl
  isNull _ := rfl
  bool _ := rfl
  number _ := rfl
  fragment _ := rfl
  call result := Option.or_eq_some_iff.2 (.inl result)
  binary _ _ _ := rfl
  unary _ _ := rfl
  cast := kit.cast_of_machine

variable {kit}

theorem call_eq_none_of_apply (result : kit.apply function args = some v) :
    kit.toMachine.call function args = none := by
  unfold apply at result
  split at result
  case h_12 => cases result
  all_goals
    rw [Machine.call_eq_applyFilled (by decide) (by simp)]
    rfl

variable {evaluation : Evaluation kit.interpretation}

theorem gives_apply {function : String} {args : List Expr} {values : List Value} {v : Value}
    (other : function ≠ "COALESCE") (each : List.Forall₂ evaluation.Gives args values)
    (result : kit.apply function values = some v) : evaluation.Gives (.call function args) v := by
  refine Evaluation.gives_call other each ?_
  change kit.call function values = some v
  rw [call, call_eq_none_of_apply result, result]
  rfl

theorem gives_length (plain : '\x00' ∉ cs) (value : evaluation.Gives operand (.text cs)) :
    evaluation.Gives (.call "LENGTH" [operand]) (.int cs.length) := by
  have whole : kit.lengthOf cs = cs.length := by
    unfold lengthOf
    cases kit.dialect with
    | postgres => rfl
    | sqlite => exact congrArg List.length (Machine.takeWhile_of_plain plain)
  rw [← whole]
  exact gives_apply (by decide) (.cons value .nil) rfl

theorem gives_repeat (dialect : kit.dialect = .postgres) {operand count : Expr} {cs : List Char}
    {n : Nat} (first : evaluation.Gives operand (.text cs))
    (second : evaluation.Gives count (.int n)) :
    evaluation.Gives (.call "REPEAT" [operand, count])
      (.text (List.replicate n cs).flatten) :=
  gives_apply (by decide) (.cons first (.cons second .nil)) (if_pos dialect)

theorem gives_quotedZeros (dialect : kit.dialect = .sqlite) {count : Expr} {n : Nat}
    (value : evaluation.Gives count (.int n)) :
    evaluation.Gives (.call "QUOTE" [.call "ZEROBLOB" [count]]) (.text (quotedZeros n)) := by
  have blob : evaluation.Gives (.call "ZEROBLOB" [count]) (.other (List.replicate n '\x00')) :=
    gives_apply (by decide) (.cons value .nil) (if_pos dialect)
  refine gives_apply (by decide) (.cons blob .nil) ((if_pos ⟨dialect, ?_⟩).trans ?_)
  · rw [List.length_replicate]
  · rw [List.length_replicate]

def blank (dialect : Dialect) : Toolkit :=
  { Machine.blank dialect with others := fun _ _ => none }

end Toolkit

end SheetSql
