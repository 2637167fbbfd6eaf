import SheetSql.Proofs.Slicing.Position

namespace SheetSql

/-! Parts of texts by position. -/

namespace Machine.IsText

variable {machine : Machine} {cs : List Char}

/-- A position that counts from the end. What is before the text counts as taken. -/
theorem slice_neg (isText : machine.IsText cs) (dialect : machine.dialect = .sqlite) {count : Nat}
    (positive : 0 < count) :
    machine.slice cs (-count) none =
      (cs.take (cs.length + machine.maxLength - count)).drop (cs.length - count) := by
  rw [slice_of_sqlite isText.plain dialect, if_pos (by omega), Chars.window, Option.getD_none]
  congr 2 <;> omega

theorem drop_take_eq_rtake_iff (short : cs.length ≤ limit) (count : Nat) :
    (cs.take (cs.length + limit - count)).drop (cs.length - count) = cs.rtake count ↔
      count ≤ limit ∨ cs = [] := by
  constructor
  · intro same
    by_contra beyond
    obtain ⟨late, filled⟩ := not_or.1 beyond
    have lengths := congrArg List.length same
    have some : 0 < cs.length := List.length_pos_iff.2 filled
    rw [List.rtake, List.length_drop, List.length_drop, List.length_take] at lengths
    omega
  · rintro (within | rfl)
    · rw [List.rtake, List.take_of_length_le (by omega)]
    · simp

end Machine.IsText

namespace Call

variable {machine : Machine} {evaluation : Evaluation machine.interpretation} {call : Call}
  {cs new : List Char} {p x : Option ℚ}

section

variable (dialect : machine.dialect = call.dialect)

include dialect

theorem finds_left (isText : machine.IsText cs) (text : evaluation.Finds (call.text 0) (.text cs))
    (count : call.has 1 = true → evaluation.FindsNumber (call.number 1) x) :
    evaluation.Finds call.left (.text (cs.take (call.countAt 1 x))) := by
  obtain ⟨t, written, value⟩ := text
  obtain ⟨n, counted, number⟩ := finds_lengthOrOne dialect count
  refine ⟨.call "SUBSTR" [t, 1, n], ?_, ?_⟩
  · rw [left, counted, written]
    rfl
  · have start := isText.slice_some le_rfl (call.countAt 1 x)
    rw [Nat.sub_self, List.drop_zero] at start
    exact start ▸ Machine.gives_slice value (Machine.gives_nat 1) number (Int.natCast_nonneg _)

theorem finds_mid (isText : machine.IsText cs) (text : evaluation.Finds (call.text 0) (.text cs))
    (position : evaluation.FindsNumber (call.number 1) p)
    (count : evaluation.FindsNumber (call.number 2) x) :
    evaluation.Finds call.mid (.text ((cs.drop (clamped 1 p - 1)).take (clamped 0 x))) := by
  obtain ⟨t, written, value⟩ := text
  obtain ⟨m, placed, start⟩ := finds_position dialect position
  obtain ⟨n, counted, number⟩ := finds_length dialect count
  refine ⟨.call "SUBSTR" [t, m, n], ?_, ?_⟩
  · rw [mid, written, placed, counted]
    rfl
  · rw [← isText.slice_some (le_clamped 1 p)]
    exact Machine.gives_slice value start number (Int.natCast_nonneg _)

theorem finds_replace (isText : machine.IsText cs)
    (text : evaluation.Finds (call.textOrEmpty 0) (.text cs))
    (position : evaluation.FindsNumber (call.number 1) p)
    (count : evaluation.FindsNumber (call.number 2) x)
    (added : evaluation.Finds (call.textOrEmpty 3) (.text new)) : evaluation.Finds call.replace
      (.text (cs.take (clamped 1 p - 1) ++ new ++ cs.drop (clamped 1 p + clamped 0 x - 1))) := by
  obtain ⟨t, written, value⟩ := text
  obtain ⟨m, placed, start⟩ := finds_position dialect position
  obtain ⟨n, counted, number⟩ := finds_length dialect count
  obtain ⟨e, adding, newValue⟩ := added
  have low := le_clamped 1 p
  have high : clamped 1 p ≤ maxPosition := clamped_le (by decide) p
  have most : clamped 0 x ≤ maxPosition := clamped_le (by decide) x
  have before : evaluation.Gives (m - 1) (.int (clamped 1 p - 1 : Nat)) := by
    have difference : ((clamped 1 p : Nat) : Int) - (1 : Nat) = (clamped 1 p - 1 : Nat) := by omega
    rw [← difference]
    refine Machine.gives_sub start (Machine.gives_nat 1) ?_
    rw [difference]
    exact isSmall_of_le (by omega)
  have after : evaluation.Gives (m + n) (.int (clamped 1 p + clamped 0 x : Nat)) :=
    Machine.gives_add start number (isSmall_of_le (n := clamped 1 p + clamped 0 x) (by omega))
  have head := Machine.gives_slice value (Machine.gives_nat 1) before (Int.natCast_nonneg _)
  have tail := Machine.gives_sliceFrom value after
  rw [isText.slice_some le_rfl, Nat.sub_self, List.drop_zero] at head
  rw [isText.slice_none (by omega)] at tail
  refine ⟨splice t m n e, ?_, ?_⟩
  · rw [replace, written, placed, counted, adding]
    rfl
  · exact Evaluation.gives_chain head (.cons newValue (.cons tail .nil)) rfl

theorem finds_right_of_postgres (postgres : call.dialect = .postgres)
    (text : evaluation.Finds (call.text 0) (.text cs))
    (count : call.has 1 = true → evaluation.FindsNumber (call.number 1) x) :
    evaluation.Finds call.right (.text (cs.rtake (call.countAt 1 x))) := by
  obtain ⟨t, written, value⟩ := text
  obtain ⟨n, counted, number⟩ := finds_lengthOrOne dialect count
  refine ⟨.call "RIGHT" [t, n], ?_, ?_⟩
  · rw [right, written, counted, postgres]
    rfl
  · exact Machine.gives_applyFilled (by decide) (.cons value (.cons number .nil)) (by simp)
      (if_pos ⟨dialect.trans postgres, Int.natCast_nonneg _⟩)

theorem finds_right_of_sqlite (sqlite : call.dialect = .sqlite) (isText : machine.IsText cs)
    (text : evaluation.Finds (call.text 0) (.text cs))
    (count : call.has 1 = true → evaluation.FindsNumber (call.number 1) x) :
    evaluation.Finds call.right
      (.text ((cs.take (cs.length + machine.maxLength - call.countAt 1 x)).drop
        (cs.length - call.countAt 1 x))) := by
  obtain ⟨t, written, value⟩ := text
  obtain ⟨n, counted, number⟩ := finds_lengthOrOne dialect count
  refine ⟨rightOf .sqlite t n, ?_, ?_⟩
  · rw [right, written, counted, sqlite]
    rfl
  refine Evaluation.gives_ite (Machine.gives_eq number (Machine.gives_nat 0)) ?_ ?_
  · -- Counted from the end, zero characters would be the whole text.
    intro zero
    have none := Machine.gives_slice value (Machine.gives_nat 1) (Machine.gives_nat 0) le_rfl
    rw [isText.slice_some le_rfl, List.take_zero] at none
    rw [List.drop_of_length_le (by rw [List.length_take]; omega)]
    exact none
  · intro filled
    have small : IsSmall (-(call.countAt 1 x : Int)) := by
      have most := call.countAt_le 1 x
      unfold IsSmall
      unfold maxPosition at most
      omega
    rw [← isText.slice_neg (dialect.trans sqlite) (by omega)]
    exact Machine.gives_sliceFrom value (Machine.gives_neg number small)

end

theorem compile_part (call : Call) :
    (call.operation = .left → call.compile = call.left) ∧
      (call.operation = .mid → call.compile = call.mid) ∧
      (call.operation = .replace → call.compile = call.replace) ∧
      (call.operation = .right → call.compile = call.right) := by
  unfold compile own? shared
  refine ⟨?_, ?_, ?_, ?_⟩ <;> intro operation <;> rw [operation]

end Call

/--
Positions and counts cut a text as they cut its list of characters. They may be any numbers or
null, and no integer on the way has more than 32 bits, nor is a text of a negative length cut out:
such an expression would have no value. The start, the middle and the replacement of a part are
right on both dialects. The end of a text is right on Postgres, and on SQLite exactly if no more
characters are asked for than a text can have, or if the text is empty.
-/
theorem positional_parts_iff (call : Call) {machine : Machine}
    (evaluation : Evaluation machine.interpretation) (dialect : machine.dialect = call.dialect)
    (checked : Target.check call.operation call.args call.hints = .ok ())
    {cs : List Char} (isText : machine.IsText cs) (new : List Char) (p x : Option ℚ) :
    (call.operation = .left → evaluation.Finds (call.text 0) (.text cs) →
        (call.has 1 = true → evaluation.FindsNumber (call.number 1) x) →
        call.Renders evaluation (.text (cs.take (call.countAt 1 x)))) ∧
      (call.operation = .mid → evaluation.Finds (call.text 0) (.text cs) →
        evaluation.FindsNumber (call.number 1) p → evaluation.FindsNumber (call.number 2) x →
        call.Renders evaluation (.text ((cs.drop (clamped 1 p - 1)).take (clamped 0 x)))) ∧
      (call.operation = .replace → evaluation.Finds (call.textOrEmpty 0) (.text cs) →
        evaluation.FindsNumber (call.number 1) p → evaluation.FindsNumber (call.number 2) x →
        evaluation.Finds (call.textOrEmpty 3) (.text new) →
        call.Renders evaluation
          (.text (cs.take (clamped 1 p - 1) ++ new ++ cs.drop (clamped 1 p + clamped 0 x - 1)))) ∧
      (call.operation = .right → evaluation.Finds (call.text 0) (.text cs) →
        (call.has 1 = true → evaluation.FindsNumber (call.number 1) x) →
        ∃ shown, call.Renders evaluation (.text shown) ∧
          (shown = cs.rtake (call.countAt 1 x) ↔
            call.dialect = .postgres ∨ call.countAt 1 x ≤ machine.maxLength ∨ cs = [])) := by
  obtain ⟨left, mid, replace, right⟩ := call.compile_part
  refine ⟨?_, ?_, ?_, ?_⟩
  · intro operation text count
    exact Call.renders_of_finds checked
      (left operation ▸ Call.finds_left dialect isText text count)
  · intro operation text position count
    exact Call.renders_of_finds checked
      (mid operation ▸ Call.finds_mid dialect isText text position count)
  · intro operation text position count added
    exact Call.renders_of_finds checked
      (replace operation ▸ Call.finds_replace dialect isText text position count added)
  · intro operation text count
    cases target : call.dialect with
    | postgres =>
      have finds := Call.finds_right_of_postgres dialect target text count
      rw [← right operation] at finds
      exact ⟨_, Call.renders_of_finds checked finds, iff_of_true rfl (.inl rfl)⟩
    | sqlite =>
      have finds := Call.finds_right_of_sqlite dialect target isText text count
      rw [← right operation] at finds
      refine ⟨_, Call.renders_of_finds checked finds, ?_⟩
      rw [Machine.IsText.drop_take_eq_rtake_iff isText.short]
      simp

def ending (count : String) : Call :=
  { job := .ofCatalog (.ofFields []) ⟨0, 0⟩, target := ⟨.sqlite, .select⟩, operation := .right,
    args := ["'abc'", count], hints := [] }

theorem isText_ending : (Machine.blank .sqlite).IsText ['a', 'b', 'c'] := ⟨by decide, by decide⟩

theorem positional_parts_iff_ending :
    let evaluation := Evaluation.scalar (Machine.blank .sqlite).interpretation
    Target.check .right (ending "2").args [] = .ok () ∧
      evaluation.Finds ((ending "2").text 0) (.text ['a', 'b', 'c']) ∧
      evaluation.FindsNumber ((ending "2").number 1) (some 2) ∧
      (ending "2").Renders evaluation (.text ['b', 'c']) := by
  intro evaluation
  have checked : Target.check .right (ending "2").args [] = .ok () := rfl
  have text : evaluation.Finds ((ending "2").text 0) (.text ['a', 'b', 'c']) :=
    ⟨.fragment "'abc'", rfl, evaluation.fragment "'abc'"⟩
  have number : evaluation.FindsNumber ((ending "2").number 1) (some 2) :=
    ⟨.real 2, ⟨(Expr.fragment "2").cast .double, rfl, Machine.gives_double rfl rfl rfl⟩, rfl⟩
  have two : (ending "2").countAt 1 (some 2) = 2 := clamped_natCast 0 2
  obtain ⟨-, -, -, right⟩ :=
    positional_parts_iff (ending "2") evaluation rfl checked isText_ending [] none (some 2)
  obtain ⟨shown, rendered, same⟩ := right rfl text fun _ => number
  rw [two] at same
  obtain rfl : shown = ['b', 'c'] := same.2 (.inr (.inl (by decide)))
  exact ⟨checked, text, number, rendered⟩

/-- More than a billion characters from the end are none. -/
theorem ending_of_billions_lost :
    let evaluation := Evaluation.scalar (Machine.blank .sqlite).interpretation
    evaluation.Finds ((ending "2000000000").text 0) (.text ['a', 'b', 'c']) ∧
      evaluation.FindsNumber ((ending "2000000000").number 1) (some 2000000000) ∧
      (ending "2000000000").Renders evaluation (.text []) ∧
      ['a', 'b', 'c'].rtake ((ending "2000000000").countAt 1 (some 2000000000)) =
        ['a', 'b', 'c'] := by
  intro evaluation
  have text : evaluation.Finds ((ending "2000000000").text 0) (.text ['a', 'b', 'c']) :=
    ⟨.fragment "'abc'", rfl, evaluation.fragment "'abc'"⟩
  have number : evaluation.FindsNumber ((ending "2000000000").number 1) (some 2000000000) :=
    ⟨.real 2000000000,
      ⟨(Expr.fragment "2000000000").cast .double, rfl, Machine.gives_double rfl rfl rfl⟩, rfl⟩
  have most : (ending "2000000000").countAt 1 (some 2000000000) = maxPosition :=
    clamped_natCast 0 2000000000
  have finds := Call.finds_right_of_sqlite rfl rfl isText_ending text fun _ => number
  rw [most] at finds
  exact ⟨text, number, Call.renders_of_finds rfl finds, by rw [most]; rfl⟩

end SheetSql
