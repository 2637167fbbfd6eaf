import Mathlib.Order.Bounds.Basic
import SheetSql.Proofs.Slicing.Position
import SheetSql.Proofs.Substitution.Occurrence

namespace SheetSql

/-! Where one text occurs in another, from a start on. -/

namespace Chars

variable {needle haystack : List Char}

/-- The first position from a start on at which a text begins, or zero if there is none. -/
def IsFirst (needle haystack : List Char) (start n : Nat) : Prop :=
  IsLeast {p | start ≤ p ∧ needle <+: haystack.drop (p - 1)} n ∨
    n = 0 ∧ ∀ p, start ≤ p → ¬needle <+: haystack.drop (p - 1)

def firstFrom (needle haystack : List Char) (start : Nat) : Nat :=
  if position needle (haystack.drop (start - 1)) = 0 then 0
  else position needle (haystack.drop (start - 1)) + start - 1

theorem firstFrom_one (needle haystack : List Char) :
    firstFrom needle haystack 1 = position needle haystack := by
  rw [firstFrom, Nat.sub_self, List.drop_zero, Nat.add_sub_cancel]
  split <;> omega

theorem position_nil (cs : List Char) : position [] cs = 1 := by
  cases cs with
  | nil => rfl
  | cons c cs => rw [position, if_pos ((startsWith_iff _ _).2 List.nil_prefix)]

theorem position_first (needle cs : List Char) :
    (position needle cs = 0 ∧ ∀ i, ¬needle <+: cs.drop i) ∨
      ∃ p, position needle cs = p + 1 ∧ needle <+: cs.drop p ∧ ∀ i < p, ¬needle <+: cs.drop i := by
  cases needle with
  | nil => exact .inr ⟨0, position_nil cs, List.nil_prefix, fun i less => absurd less i.not_lt_zero⟩
  | cons c rest => exact position_cases (List.cons_ne_nil c rest) cs

theorem position_le (needle cs : List Char) : position needle cs ≤ max 1 cs.length := by
  cases needle with
  | nil => exact (position_nil cs).le.trans (le_max_left _ _)
  | cons c rest =>
    rcases position_cases (List.cons_ne_nil c rest) cs with ⟨none, -⟩ | ⟨p, found, occurs, -⟩
    · omega
    · have inside := length_le_of_prefix_drop (List.cons_ne_nil c rest) occurs
      rw [List.length_cons] at inside
      omega

theorem isFirst_firstFrom (positive : 1 ≤ start) :
    IsFirst needle haystack start (firstFrom needle haystack start) := by
  have shift : ∀ p, start ≤ p →
      haystack.drop (p - 1) = (haystack.drop (start - 1)).drop (p - start) := by
    intro p late
    rw [List.drop_drop]
    congr 1
    omega
  rcases position_first needle (haystack.drop (start - 1)) with
    ⟨none, nowhere⟩ | ⟨p, found, occurs, first⟩
  · refine .inr ⟨if_pos none, fun p late => ?_⟩
    rw [shift p late]
    exact nowhere (p - start)
  · have place : firstFrom needle haystack start = start + p := by
      rw [firstFrom, found, if_neg (Nat.succ_ne_zero p)]
      omega
    rw [place]
    refine .inl ⟨⟨Nat.le_add_right start p, ?_⟩, ?_⟩
    · rw [shift _ (Nat.le_add_right start p), Nat.add_sub_cancel_left]
      exact occurs
    · rintro q ⟨late, here⟩
      rw [shift q late] at here
      by_contra before
      exact first (q - start) (by omega) here

theorem IsFirst.unique (first : IsFirst needle haystack start m)
    (second : IsFirst needle haystack start n) : m = n := by
  rcases first with found | ⟨rfl, nowhere⟩
  · rcases second with other | ⟨rfl, nowhere⟩
    · exact found.unique other
    · exact absurd found.1.2 (nowhere m found.1.1)
  · rcases second with other | ⟨rfl, -⟩
    · exact absurd other.1.2 (nowhere n other.1.1)
    · rfl

end Chars

namespace Machine

variable {machine : Machine} {evaluation : Evaluation machine.interpretation}

/-- The sum of a position and its start stays in range, for it is in the text. -/
theorem gives_positionFrom {needle haystack start : Expr} {cs ds : List Char} {s : Nat}
    (isText : machine.IsText ds) (first : evaluation.Gives needle (.text cs))
    (second : evaluation.Gives haystack (.text ds)) (third : evaluation.Gives start (.int s))
    (positive : 1 ≤ s) (bounded : s ≤ maxPosition) :
    evaluation.Gives (Call.positionFrom machine.dialect needle haystack start)
      (.int (Chars.firstFrom cs ds s)) := by
  have suffix := gives_sliceFrom second third
  rw [isText.slice_none positive] at suffix
  have within := gives_position suffix first
  refine Evaluation.gives_ite (gives_eq within (gives_nat 0)) ?_ ?_
  · intro absent
    have zero : Chars.firstFrom cs ds s = 0 := if_pos (by omega)
    rw [zero]
    exact gives_nat 0
  · intro found
    have place : Chars.firstFrom cs ds s = Chars.position cs (ds.drop (s - 1)) + s - 1 :=
      if_neg (by omega)
    have range : (Chars.position cs (ds.drop (s - 1)) : Int) + s ≤ 2147483647 := by
      have inside := Chars.position_le cs (ds.drop (s - 1))
      have short := isText.short
      have limit := machine.maxLength_lt
      rw [List.length_drop] at inside
      unfold maxPosition at bounded
      omega
    have sum := gives_add within third ⟨by omega, range⟩
    have difference := gives_sub sum (gives_nat 1) ⟨by omega, by omega⟩
    have whole : ((Chars.firstFrom cs ds s : Nat) : Int) =
        Chars.position cs (ds.drop (s - 1)) + s - (1 : Nat) := by omega
    rw [whole]
    exact difference

theorem gives_lower {e : Expr} {cs : List Char} (value : evaluation.Gives e (.text cs)) :
    evaluation.Gives (.call "LOWER" [e]) (.text (machine.lower cs)) :=
  gives_applyFilled (by decide) (.cons value .nil) (by simp) rfl

theorem gives_nullIf {e : Expr} {n : Nat} (value : evaluation.Gives e (.int n)) :
    evaluation.Gives (e.nullIf 0) (if n = 0 then .null else .int n) := by
  have applied : machine.applyFilled "NULLIF" [.int n, .int (0 : Nat)] =
      some (if some (((n : Int) : ℚ) == ((0 : Nat) : Int)) = some true then Value.null
        else .int n) := rfl
  refine gives_applyFilled (by decide) (.cons value (.cons (gives_nat 0) .nil)) (by simp)
    (applied.trans ?_)
  simp

end Machine

namespace Call

variable {machine : Machine} {evaluation : Evaluation machine.interpretation} {call : Call}
  {needle haystack : List Char} {x : Option ℚ}

def startAt (call : Call) (i : Nat) (x : Option ℚ) : Nat :=
  if call.has i then clamped 1 x else 1

theorem le_startAt (call : Call) (i : Nat) (x : Option ℚ) : 1 ≤ call.startAt i x := by
  unfold startAt
  split
  · exact le_clamped 1 x
  · exact le_rfl

theorem finds_positionOf {fold : Expr → Expr} {view : List Char → List Char}
    (folds : ∀ {e cs}, evaluation.Gives e (.text cs) → evaluation.Gives (fold e) (.text (view cs)))
    (dialect : machine.dialect = call.dialect) (isText : machine.IsText (view haystack))
    (first : evaluation.Finds (call.textOrEmpty 0) (.text needle))
    (second : evaluation.Finds (call.textOrEmpty 1) (.text haystack))
    (start : call.has 2 = true → evaluation.FindsNumber (call.number 2) x) :
    evaluation.Finds (call.positionOf fold)
      (.int (Chars.firstFrom (view needle) (view haystack) (call.startAt 2 x))) := by
  obtain ⟨a, searched, needleValue⟩ := first
  obtain ⟨b, written, haystackValue⟩ := second
  unfold positionOf startAt
  rw [searched, written]
  cases given : call.has 2 with
  | true =>
    obtain ⟨s, placed, value⟩ := finds_position dialect (start given)
    refine ⟨positionFrom call.dialect (fold a) (fold b) s, ?_, ?_⟩
    · rw [placed]
      rfl
    · rw [← dialect]
      exact Machine.gives_positionFrom isText (folds needleValue) (folds haystackValue) value
        (le_clamped 1 x) (clamped_le (by decide) x)
  | false =>
    refine ⟨call.dialect.position (fold b) (fold a), rfl, ?_⟩
    rw [← dialect]
    exact Chars.firstFrom_one (view needle) (view haystack) ▸
      Machine.gives_position (folds haystackValue) (folds needleValue)

theorem finds_find (dialect : machine.dialect = call.dialect) (isText : machine.IsText haystack)
    (first : evaluation.Finds (call.textOrEmpty 0) (.text needle))
    (second : evaluation.Finds (call.textOrEmpty 1) (.text haystack))
    (start : call.has 2 = true → evaluation.FindsNumber (call.number 2) x) :
    evaluation.Finds call.find (.int (Chars.firstFrom needle haystack (call.startAt 2 x))) :=
  finds_positionOf id dialect isText first second start

theorem finds_search (dialect : machine.dialect = call.dialect)
    (isText : machine.IsText (machine.lower haystack))
    (first : evaluation.Finds (call.textOrEmpty 0) (.text needle))
    (second : evaluation.Finds (call.textOrEmpty 1) (.text haystack))
    (start : call.has 2 = true → evaluation.FindsNumber (call.number 2) x) :
    let n := Chars.firstFrom (machine.lower needle) (machine.lower haystack) (call.startAt 2 x)
    evaluation.Finds call.search (if n = 0 then .null else .int n) := by
  intro n
  obtain ⟨e, compiled, value⟩ :=
    finds_positionOf Machine.gives_lower dialect isText first second start
  refine ⟨e.nullIf 0, ?_, Machine.gives_nullIf value⟩
  rw [search, compiled]
  rfl

end Call

/--
Searches find the first occurrence from the start on. For all texts and every start, the expression
has the least position at or after the start at which the other text begins, and zero if there is
none. In any letter case the same holds of the texts in lower case, with null in place of zero.
-/
theorem first_occurrence_from_start (call : Call) {machine : Machine}
    (evaluation : Evaluation machine.interpretation) (dialect : machine.dialect = call.dialect)
    (checked : Target.check call.operation call.args call.hints = .ok ())
    {needle haystack : List Char} {x : Option ℚ}
    (first : evaluation.Finds (call.textOrEmpty 0) (.text needle))
    (second : evaluation.Finds (call.textOrEmpty 1) (.text haystack))
    (start : call.has 2 = true → evaluation.FindsNumber (call.number 2) x) :
    (call.operation = .find → machine.IsText haystack →
        ∃ n : Nat, call.Renders evaluation (.int n) ∧
          Chars.IsFirst needle haystack (call.startAt 2 x) n) ∧
      (call.operation = .search → machine.IsText (machine.lower haystack) →
        ∃ n : Nat, call.Renders evaluation (if n = 0 then .null else .int n) ∧
          Chars.IsFirst (machine.lower needle) (machine.lower haystack) (call.startAt 2 x) n) := by
  refine ⟨fun operation isText => ?_, fun operation isText => ?_⟩
  · have compiled : call.compile = call.find := by
      unfold Call.compile Call.own? Call.shared
      rw [operation]
    have finds := Call.finds_find dialect isText first second start
    rw [← compiled] at finds
    exact ⟨_, Call.renders_of_finds checked finds,
      Chars.isFirst_firstFrom (call.le_startAt 2 x)⟩
  · have compiled : call.compile = call.search := by
      unfold Call.compile Call.own? Call.shared
      rw [operation]
    have finds := Call.finds_search dialect isText first second start
    rw [← compiled] at finds
    exact ⟨_, Call.renders_of_finds checked finds,
      Chars.isFirst_firstFrom (call.le_startAt 2 x)⟩

def later : Call :=
  { job := .ofCatalog (.ofFields []) ⟨0, 0⟩, target := ⟨.postgres, .select⟩, operation := .find,
    args := ["'b'", "'abcb'", "3"], hints := [] }

theorem first_occurrence_from_start_later :
    let evaluation := Evaluation.scalar (Machine.blank .postgres).interpretation
    Target.check .find later.args [] = .ok () ∧
      evaluation.Finds (later.textOrEmpty 0) (.text ['b']) ∧
      evaluation.Finds (later.textOrEmpty 1) (.text ['a', 'b', 'c', 'b']) ∧
      evaluation.FindsNumber (later.number 2) (some 3) ∧
      later.Renders evaluation (.int 4) := by
  intro evaluation
  have checked : Target.check .find later.args [] = .ok () := rfl
  have needle : evaluation.Finds (later.textOrEmpty 0) (.text ['b']) :=
    ⟨(Expr.fragment "'b'").orElse (.text ""), rfl,
      Evaluation.gives_coalesce (.cons (evaluation.fragment _) (.cons (evaluation.text "") .nil))⟩
  have haystack : evaluation.Finds (later.textOrEmpty 1) (.text ['a', 'b', 'c', 'b']) :=
    ⟨(Expr.fragment "'abcb'").orElse (.text ""), rfl,
      Evaluation.gives_coalesce (.cons (evaluation.fragment _) (.cons (evaluation.text "") .nil))⟩
  have number : evaluation.FindsNumber (later.number 2) (some 3) :=
    ⟨.real 3, ⟨(Expr.fragment "3").cast .double, rfl, Machine.gives_double rfl rfl rfl⟩, rfl⟩
  have three : later.startAt 2 (some 3) = 3 := clamped_natCast 1 3
  obtain ⟨found, -⟩ :=
    first_occurrence_from_start later evaluation rfl checked needle haystack fun _ => number
  obtain ⟨n, rendered, first⟩ := found rfl ⟨by decide, by decide⟩
  rw [three] at first
  obtain rfl : n = 4 := first.unique (Chars.isFirst_firstFrom (by decide))
  exact ⟨checked, needle, haystack, number, rendered⟩

end SheetSql
