import SheetSql.Proofs.Denotation.Extremum
import SheetSql.Proofs.Denotation.Toolkit

namespace SheetSql

/-! Texts that are repeated. -/

namespace Chars

theorem replaceAll_replicate (c : Char) (cs : List Char) (n : Nat) :
    replaceAll [c] cs 0 (List.replicate n c) = (List.replicate n cs).flatten := by
  induction n with
  | zero => rfl
  | succ n ih =>
    have found : Text.startsWith [c] (c :: List.replicate n c) = true := by
      rw [Text.startsWith, Text.rest?]
      simp [Text.rest?]
    rw [List.replicate_succ, replaceAll, if_pos found, List.replicate_succ, List.flatten_cons]
    exact congrArg (cs ++ ·) ih

end Chars

/--
How often a text is repeated: as often as a number without its fraction says, but not at all where
it is negative or null, and at most as often as the text fits into ten million characters.
-/
def repetitions (cs : List Char) (x : Option ℚ) : Nat :=
  min (x.elim 0 fun q => (truncated q).toNat) (10000000 / max cs.length 1)

theorem length_repeated_le (cs : List Char) (x : Option ℚ) :
    (List.replicate (repetitions cs x) cs).flatten.length ≤ 10000000 := by
  have length : (List.replicate (repetitions cs x) cs).flatten.length =
      repetitions cs x * cs.length := by
    simp [List.length_flatten]
  calc (List.replicate (repetitions cs x) cs).flatten.length
      = repetitions cs x * cs.length := length
    _ ≤ 10000000 / max cs.length 1 * max cs.length 1 :=
        Nat.mul_le_mul (min_le_right _ _) (le_max_left _ _)
    _ ≤ 10000000 := Nat.div_mul_le_self _ _

theorem min_clamped_eq_repetitions (cs : List Char) (x : Option ℚ) :
    min (clamped 0 x) (10000000 / max cs.length 1) = repetitions cs x := by
  have most : 10000000 / max cs.length 1 ≤ 10000000 := Nat.div_le_self _ _
  unfold repetitions clamped maxPosition
  omega

namespace Toolkit

theorem plain_quotedZeros (n : Nat) : '\x00' ∉ quotedZeros n := by
  simp [quotedZeros, List.mem_replicate]

theorem take_quotedZeros (within : m ≤ 2 * n) :
    ((quotedZeros n).drop 2).take m = List.replicate m '0' := by
  change (List.replicate (2 * n) '0' ++ ['\x27']).take m = _
  rw [List.take_append_of_le_length (by simpa using within), List.take_replicate,
    min_eq_left within]

variable {kit : Toolkit} {evaluation : Evaluation kit.interpretation} {cs : List Char}
  {t count : Expr} {m n : Nat}

/-- Each byte makes two zeros, so that half as many bytes do, rounded up. -/
theorem gives_zeros (dialect : kit.dialect = .sqlite) (value : evaluation.Gives count (.int n))
    (bounded : n ≤ maxPosition) :
    evaluation.Gives
      (.call "SUBSTR" [.call "QUOTE" [.call "ZEROBLOB" [(count + 1) / 2]], 3, count])
      (.text (List.replicate n '0')) := by
  have more : evaluation.Gives (count + 1) (.int (n + 1 : Nat)) := by
    refine Machine.gives_add value (Machine.gives_nat 1) (isSmall_of_le (n := n + 1) ?_)
    unfold maxPosition at bounded ⊢
    omega
  have half : evaluation.Gives ((count + 1) / 2) (.int ((n + 1) / 2 : Nat)) := by
    refine Machine.gives_div more (Machine.gives_nat 2) two_pos (isSmall_of_le ?_)
    unfold maxPosition at bounded ⊢
    omega
  have cut := Machine.gives_slice (gives_quotedZeros dialect half) (Machine.gives_nat 3) value
    (Int.natCast_nonneg n)
  rw [Machine.slice_of_plain (plain_quotedZeros _) (by decide), take_quotedZeros (by omega)] at cut
  exact cut

/-- The text takes the place of each zero, also where it has zeros of its own. -/
theorem gives_replacedZeros (run : evaluation.Gives zeros (.text (List.replicate n '0')))
    (text : evaluation.Gives t (.text cs)) :
    evaluation.Gives (.call "REPLACE" [zeros, .text "0", t])
      (.text (List.replicate n cs).flatten) := by
  have zero : evaluation.Gives (.text "0") (.text ['0']) := evaluation.text "0"
  rw [← Chars.replaceAll_replicate '0']
  exact Machine.gives_applyFilled (by decide) (.cons run (.cons zero (.cons text .nil))) (by simp) rfl

theorem gives_repeatCap (plain : '\x00' ∉ cs) (text : evaluation.Gives t (.text cs)) :
    evaluation.Gives (Call.repeatCap kit.dialect t) (.int (10000000 / max cs.length 1 : Nat)) := by
  have longest : evaluation.Gives (kit.dialect.greatest [.call "LENGTH" [t], 1])
      (.int (max cs.length 1 : Nat)) := by
    refine Machine.gives_greatest (.cons (gives_length plain text) (.cons (Machine.gives_nat 1) .nil))
      ((kit.applyOrder_ints true _ _).trans ?_)
    rw [if_pos rfl, Nat.cast_max]
  exact Machine.gives_div (Machine.gives_nat 10000000) longest (by omega) (by decide)

theorem gives_repeatOf (plain : '\x00' ∉ cs) (text : evaluation.Gives t (.text cs))
    (value : evaluation.Gives count (.int m)) :
    evaluation.Gives (Call.repeatOf kit.dialect t count)
      (.text (List.replicate (min m (10000000 / max cs.length 1)) cs).flatten) := by
  have least : evaluation.Gives (kit.dialect.least [count, Call.repeatCap kit.dialect t])
      (.int (min m (10000000 / max cs.length 1) : Nat)) := by
    refine Machine.gives_least (.cons value (.cons (gives_repeatCap plain text) .nil))
      ((kit.applyOrder_ints false _ _).trans ?_)
    rw [if_neg Bool.false_ne_true, Nat.cast_min]
  have bounded : min m (10000000 / max cs.length 1) ≤ maxPosition := by
    have most : 10000000 / max cs.length 1 ≤ 10000000 := Nat.div_le_self _ _
    unfold maxPosition
    omega
  cases dialect : kit.dialect with
  | postgres =>
    rw [dialect] at least
    exact gives_repeat dialect text least
  | sqlite =>
    rw [dialect] at least
    exact gives_replacedZeros (gives_zeros dialect least bounded) text

end Toolkit

namespace Call

theorem compile_rept {call : Call} (operation : call.operation = .rept) :
    call.compile = call.rept := by
  unfold compile own?
  rw [operation]

theorem yields_rept {call : Call} {kit : Toolkit} {evaluation : Evaluation kit.interpretation}
    (dialect : kit.dialect = call.dialect) (plain : '\x00' ∉ cs)
    (text : evaluation.Yields (call.textOrEmpty 0) (.text cs))
    (count : evaluation.Yields (call.number 1) v) (denotes : v.Denotes x) :
    evaluation.Yields call.rept (.text (List.replicate (repetitions cs x) cs).flatten) := by
  obtain ⟨t, written, value⟩ := text
  obtain ⟨n, counted, number⟩ := count
  have length : call.length 1 = .ok (kit.dialect.boundedInt n 0 maxPosition) := by
    rw [Call.length, counted, dialect]
    rfl
  refine ⟨repeatOf kit.dialect t (kit.dialect.boundedInt n 0 maxPosition), ?_, ?_⟩
  · rw [rept, written, length, dialect]
    rfl
  · rw [← min_clamped_eq_repetitions]
    exact Toolkit.gives_repeatOf plain value (Machine.gives_clamped 0 (by decide) number denotes)

end Call

/--
A text is repeated alike on both dialects, whatever number or null the count is, and the result
never has more than ten million characters. No integer on the way has more than 32 bits. A text with
a null character is left out: Postgres has none, and SQLite counts the length up to it only.
-/
theorem repetition_agrees_on_both_dialects (call : Call) (placement : Dialect → Placement)
    (operation : call.operation = .rept)
    (checked : Target.check call.operation call.args call.hints = .ok ())
    {kit : Dialect → Toolkit} (engines : ∀ dialect, (kit dialect).dialect = dialect)
    (evaluation : ∀ dialect, Evaluation (kit dialect).interpretation)
    {cs : List Char} (plain : '\x00' ∉ cs)
    (text : ∀ dialect, (evaluation dialect).Yields
      ((call.on ⟨dialect, placement dialect⟩).textOrEmpty 0) (.text cs))
    {x : Option ℚ} (count : ∀ dialect, ∃ v : Value, v.Denotes x ∧
      (evaluation dialect).Yields ((call.on ⟨dialect, placement dialect⟩).number 1) v) :
    (∀ dialect, (evaluation dialect).Writes (call.on ⟨dialect, placement dialect⟩)
        (.text (List.replicate (repetitions cs x) cs).flatten)) ∧
      (List.replicate (repetitions cs x) cs).flatten.length ≤ 10000000 := by
  refine ⟨fun dialect => ?_, length_repeated_le cs x⟩
  obtain ⟨v, denotes, number⟩ := count dialect
  have compiled : (call.on ⟨dialect, placement dialect⟩).compile = _ := Call.compile_rept operation
  refine Evaluation.writes_of_yields checked ?_
  rw [compiled]
  exact Call.yields_rept (engines dialect) plain (text dialect) number denotes

def stutter : Call :=
  { job := .ofCatalog (.ofFields []) ⟨0, 0⟩, target := ⟨.sqlite, .select⟩, operation := .rept,
    args := ["'a0'", "3.5"], hints := [] }

theorem repetition_agrees_on_both_dialects_stutter :
    let evaluation := fun dialect => Evaluation.scalar (Toolkit.blank dialect).interpretation
    Target.check .rept stutter.args [] = .ok () ∧
      (∀ dialect, (evaluation dialect).Yields ((stutter.on ⟨dialect, .select⟩).textOrEmpty 0)
        (.text ['a', '0'])) ∧
      (∀ dialect, (evaluation dialect).Yields ((stutter.on ⟨dialect, .select⟩).number 1)
        (.real (7 / 2))) ∧
      ∀ dialect, (evaluation dialect).Writes (stutter.on ⟨dialect, .select⟩)
        (.text ['a', '0', 'a', '0', 'a', '0']) := by
  intro evaluation
  have checked : Target.check .rept stutter.args [] = .ok () := rfl
  have text : ∀ dialect, (evaluation dialect).Yields ((stutter.on ⟨dialect, .select⟩).textOrEmpty 0)
      (.text ['a', '0']) := by
    intro dialect
    refine ⟨(Expr.fragment "'a0'").orElse (.text ""), by cases dialect <;> rfl, ?_⟩
    exact Evaluation.gives_coalesce (.cons ((evaluation dialect).fragment "'a0'")
      (.cons ((evaluation dialect).text "") .nil))
  have number : ∀ dialect, (evaluation dialect).Yields ((stutter.on ⟨dialect, .select⟩).number 1)
      (.real (7 / 2)) := by
    intro dialect
    have written : (Toolkit.blank dialect).fragment "3.5" = .real (7 / 2) := by
      change Value.real (Decimal.value ⟨false, 35, -1⟩) = _
      norm_num [Decimal.value]
    exact ⟨(Expr.fragment "3.5").cast .double, by cases dialect <;> rfl,
      Machine.gives_double written rfl rfl⟩
  have three : repetitions ['a', '0'] (some (7 / 2)) = 3 := by
    have whole : truncated (7 / 2) = 3 := by
      rw [truncated, if_pos (by norm_num)]
      exact Int.floor_eq_iff.2 (by norm_num)
    rw [repetitions, Option.elim_some, whole]
    rfl
  have both := (repetition_agrees_on_both_dialects stutter (fun _ => .select) rfl checked
    (fun _ => rfl) evaluation (by decide) text (x := some (7 / 2))
    fun dialect => ⟨.real (7 / 2), rfl, number dialect⟩).1
  rw [three] at both
  exact ⟨checked, text, number, both⟩

end SheetSql
