import SheetSql.Proofs.Denotation.Machine

namespace SheetSql

/-! Positions in texts and numbers of characters. -/

/-- A number without its fraction between a least one, which stands for null, and the greatest. -/
def clamped (low : Nat) (x : Option ℚ) : Nat :=
  max low (min (x.elim low fun q => (truncated q).toNat) maxPosition)

theorem le_clamped (low : Nat) (x : Option ℚ) : low ≤ clamped low x := le_max_left _ _

theorem clamped_le (bounded : low ≤ maxPosition) (x : Option ℚ) : clamped low x ≤ maxPosition :=
  max_le bounded (min_le_right _ _)

theorem clamped_natCast (low n : Nat) :
    clamped low (some (n : ℚ)) = max low (min n maxPosition) := by
  have whole : truncated (n : ℚ) = n := truncated_intCast n
  rw [clamped, Option.elim_some, whole, Int.toNat_natCast]

theorem isSmall_of_le (bounded : n ≤ 2 * maxPosition) : IsSmall n := by
  unfold IsSmall
  unfold maxPosition at bounded
  omega

theorem truncated_eq_clamped (low : Nat) (x : Option ℚ) :
    truncated (max (min (x.getD low) maxPosition) low) = clamped low x := by
  have cut := truncated_bounded low maxPosition (x.getD low)
  simp only [Int.cast_natCast] at cut
  rw [cut, clamped]
  cases x with
  | none =>
    have whole : truncated ((none : Option ℚ).getD low) = low := truncated_intCast low
    rw [whole]
    simp
  | some q =>
    simp only [Option.getD_some, Option.elim_some]
    omega

namespace Machine

theorem castWhole_of_number? {v : Value} (number : v.number? = some q)
    (small : IsSmall (truncated q)) : v.castWhole = .int (truncated q) := by
  obtain rfl | ⟨n, rfl, rfl⟩ := Value.isNumber_of_number? number
  · change Value.ofBounded (q.num.tdiv q.den) = _
    rw [tdiv_eq_truncated, Value.ofBounded]
    unfold IsSmall at small
    congr 1
    omega
  · rw [truncated_intCast]
    rfl

section

variable {machine : Machine} {engine : Interpretation Value} [underlies : machine.Underlies engine]
  {evaluation : Evaluation engine} {e : Expr} {v : Value} {x : Option ℚ}

include underlies

theorem gives_bounded (low high : Int) (value : evaluation.Gives e v) (denotes : v.Denotes x) :
    ∃ w, evaluation.Gives
        (machine.dialect.greatest
          [machine.dialect.least [e.orElse (.int low), .int high], .int low]) w ∧
      w.number? = some (max (min (x.getD low) high) low) := by
  have filled : evaluation.Gives (e.orElse (.int low)) _ :=
    Evaluation.gives_coalesce (.cons value (.cons (gives_int low) .nil))
  have number : (Evaluation.firstFilled engine _).number? = _ := number?_orElse denotes low
  obtain ⟨a, lower, isLower⟩ := applyOrder_pair machine false number (b := .int high) rfl
  obtain ⟨b, upper, isUpper⟩ := applyOrder_pair machine true isLower (b := .int low) rfl
  have below := gives_least (.cons filled (.cons (gives_int high) .nil)) lower
  exact ⟨b, gives_greatest (.cons below (.cons (gives_int low) .nil)) upper, isUpper⟩

theorem gives_boundedInt (low high : Int) (cut : truncated (max (min (x.getD low) high) low) = n)
    (small : IsSmall n) (value : evaluation.Gives e v) (denotes : v.Denotes x) :
    evaluation.Gives (machine.dialect.boundedInt e low high) (.int n) := by
  obtain ⟨w, between, number⟩ := gives_bounded low high value denotes
  unfold Dialect.boundedInt
  cases dialect : machine.dialect with
  | postgres =>
    rw [dialect] at between
    have filled : .null ∉ [w] := by
      simpa using (Value.ne_null_of_number? number).symm
    have whole : machine.applyFilled "TRUNC" [w] = some (.real n) := by
      refine (if_pos dialect).trans ?_
      rw [number, Option.map_some, cut]
    refine Evaluation.gives_cast (gives_applyFilled (by decide) (.cons between .nil) filled whole)
      (Underlies.cast ?_)
    change (machine.cast .integer _).bind Value.small? = _
    rw [cast_real dialect]
    exact Value.small?_int small
  | sqlite =>
    rw [dialect] at between
    refine Evaluation.gives_cast between (Underlies.cast ?_)
    change (machine.cast .integer w).bind Value.small? = _
    rw [cast_whole dialect, castWhole_of_number? number (cut.symm ▸ small), cut]
    exact Value.small?_int small

theorem gives_clamped (low : Nat) (bounded : low ≤ maxPosition) (value : evaluation.Gives e v)
    (denotes : v.Denotes x) :
    evaluation.Gives (machine.dialect.boundedInt e low maxPosition) (.int (clamped low x)) := by
  refine gives_boundedInt low maxPosition ?_ ?_ value denotes
  · exact truncated_eq_clamped low x
  · exact isSmall_of_le ((clamped_le bounded x).trans (Nat.le_mul_of_pos_left _ two_pos))

end

variable {machine : Machine}

/-- A text that both engines can hold. -/
structure IsText (machine : Machine) (cs : List Char) : Prop where
  plain : '\x00' ∉ cs
  short : cs.length ≤ machine.maxLength

theorem window_eq {start : Nat} (positive : 1 ≤ start) (cs : List Char) (count : Nat) :
    Chars.window cs start count = (cs.drop (start - 1)).take count := by
  rw [Chars.window, List.drop_take]
  congr 2 <;> omega

variable {cs : List Char}

theorem slice_of_postgres (dialect : machine.dialect = .postgres) (start : Int)
    (count : Option Int) :
    machine.slice cs start count = count.elim (cs.drop (start - 1).toNat) (Chars.window cs start) := by
  rw [slice, dialect]

theorem takeWhile_of_plain (plain : '\x00' ∉ cs) : cs.takeWhile (· != '\x00') = cs := by
  refine List.takeWhile_eq_self_iff.2 fun c member => ?_
  rw [bne_iff_ne]
  rintro rfl
  exact plain member

theorem slice_of_sqlite (plain : '\x00' ∉ cs) (dialect : machine.dialect = .sqlite)
    (start : Int) (count : Option Int) :
    machine.slice cs start count =
      Chars.window cs (if start < 0 then cs.length + 1 + start else start)
        (count.getD machine.maxLength) := by
  rw [slice, dialect]
  dsimp only
  rw [takeWhile_of_plain plain]

theorem slice_of_plain (plain : '\x00' ∉ cs) {start : Nat} (positive : 1 ≤ start) (count : Nat) :
    machine.slice cs start (some (count : Int)) = (cs.drop (start - 1)).take count := by
  cases dialect : machine.dialect with
  | postgres => exact (slice_of_postgres dialect _ _).trans (window_eq positive cs count)
  | sqlite =>
    rw [slice_of_sqlite plain dialect, if_neg (by omega)]
    exact window_eq positive cs count

namespace IsText

theorem slice_some (isText : machine.IsText cs) {start : Nat} (positive : 1 ≤ start)
    (count : Nat) :
    machine.slice cs start (some (count : Int)) = (cs.drop (start - 1)).take count :=
  slice_of_plain isText.plain positive count

theorem slice_none (isText : machine.IsText cs) {start : Nat} (positive : 1 ≤ start) :
    machine.slice cs start none = cs.drop (start - 1) := by
  cases dialect : machine.dialect with
  | postgres =>
    refine (slice_of_postgres dialect _ _).trans (congrArg (cs.drop ·) ?_)
    omega
  | sqlite =>
    have short : (cs.drop (start - 1)).length ≤ machine.maxLength := by
      have := isText.short
      rw [List.length_drop]
      omega
    rw [slice_of_sqlite isText.plain dialect, if_neg (by omega)]
    exact (window_eq positive cs machine.maxLength).trans (List.take_of_length_le short)

end IsText

end Machine

namespace Call

variable {machine : Machine} {evaluation : Evaluation machine.interpretation} {call : Call}
  {i : Nat} {x : Option ℚ}

theorem finds_position (dialect : machine.dialect = call.dialect)
    (number : evaluation.FindsNumber (call.number i) x) :
    evaluation.Finds (call.position i) (.int (clamped 1 x)) := by
  obtain ⟨v, ⟨e, found, value⟩, denotes⟩ := number
  refine ⟨_, ?_, Machine.gives_clamped 1 (by decide) value denotes⟩
  rw [position, found, dialect]
  rfl

theorem finds_length (dialect : machine.dialect = call.dialect)
    (number : evaluation.FindsNumber (call.number i) x) :
    evaluation.Finds (call.length i) (.int (clamped 0 x)) := by
  obtain ⟨v, ⟨e, found, value⟩, denotes⟩ := number
  refine ⟨_, ?_, Machine.gives_clamped 0 (by decide) value denotes⟩
  rw [length, found, dialect]
  rfl

/-- A number of characters, which is one if it is left out. -/
def countAt (call : Call) (i : Nat) (x : Option ℚ) : Nat :=
  if call.has i then clamped 0 x else 1

theorem countAt_le (call : Call) (i : Nat) (x : Option ℚ) : call.countAt i x ≤ maxPosition := by
  unfold countAt
  split
  · exact clamped_le (by decide) x
  · decide

theorem finds_lengthOrOne (dialect : machine.dialect = call.dialect)
    (number : call.has i = true → evaluation.FindsNumber (call.number i) x) :
    evaluation.Finds (call.lengthOrOne i) (.int (call.countAt i x)) := by
  unfold lengthOrOne countAt
  cases given : call.has i with
  | true => exact finds_length dialect (number given)
  | false => exact ⟨1, rfl, Machine.gives_nat 1⟩

end Call

end SheetSql
