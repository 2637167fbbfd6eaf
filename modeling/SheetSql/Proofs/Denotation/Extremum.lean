import SheetSql.Proofs.Denotation.Machine

namespace SheetSql

/-! The greatest and the least of arguments. -/

namespace Machine

variable {greatest : Bool}

theorem best?_eq_none_iff : best? greatest numbers = none ↔ numbers = [] := by
  cases greatest with
  | true => exact List.max?_eq_none_iff
  | false => exact List.min?_eq_none_iff

theorem best?_eq_some_iff :
    best? greatest numbers = some m ↔
      m ∈ numbers ∧ ∀ p ∈ numbers, better greatest p m = m := by
  cases greatest with
  | true =>
    simp only [better, if_true, max_eq_right_iff]
    exact List.max?_eq_some_iff
  | false =>
    simp only [better, Bool.false_eq_true, if_false, min_eq_right_iff]
    exact List.min?_eq_some_iff

theorem best?_reduceOption_singleton : best? greatest [x].reduceOption = x := by
  cases x with
  | none => exact best?_eq_none_iff.2 rfl
  | some q => exact best?_cons greatest q []

theorem best?_congr (same : ∀ p, p ∈ ps ↔ p ∈ qs) : best? greatest ps = best? greatest qs := by
  cases found : best? greatest qs with
  | none =>
    rw [best?_eq_none_iff] at found ⊢
    subst found
    exact List.eq_nil_iff_forall_not_mem.2 fun p member => List.not_mem_nil ((same p).1 member)
  | some m =>
    rw [best?_eq_some_iff] at found ⊢
    exact ⟨(same m).2 found.1, fun p member => found.2 p ((same p).1 member)⟩

variable {machine : Machine} {values : List Value} {xs : List (Option ℚ)}

theorem areNumbers_filter (each : List.Forall₂ Value.Denotes values xs) :
    AreNumbers (values.filter (· ≠ .null)) xs.reduceOption := by
  induction each with
  | nil => exact .nil
  | @cons v x values xs first _ ih =>
    cases x with
    | none =>
      cases first
      exact ih
    | some q =>
      rw [List.filter_cons_of_pos (by simpa using Value.ne_null_of_number? first),
        List.reduceOption_cons_of_some]
      exact .cons first ih

theorem mem_map_getD_iff (first : xs.reduceOption = q :: rest) (p : ℚ) :
    p ∈ xs.map (fun x => x.getD q) ↔ p ∈ xs.reduceOption := by
  rw [List.reduceOption_mem_iff, List.mem_map]
  constructor
  · rintro ⟨x, member, rfl⟩
    cases x with
    | none =>
      rw [Option.getD_none, ← List.reduceOption_mem_iff, first]
      exact List.mem_cons_self
    | some p => exact member
  · intro member
    exact ⟨some p, member, rfl⟩

noncomputable def filledUp (machine : Machine) (values : List Value) : List Value :=
  values.map fun v => Evaluation.firstFilled machine.interpretation (v :: values)

theorem areNumbers_filledUp (each : List.Forall₂ Value.Denotes values xs)
    (first : xs.reduceOption = q :: rest) :
    AreNumbers (machine.filledUp values) (xs.map fun x => x.getD q) := by
  refine List.forall₂_map_left_iff.2 (List.forall₂_map_right_iff.2 (each.imp ?_))
  intro v x value
  have result : (Evaluation.firstFilled machine.interpretation _).Denotes _ :=
    denotes_firstFilled (.cons value each)
  cases x with
  | none =>
    rw [List.reduceOption_cons_of_none, first] at result
    exact result
  | some p =>
    rw [List.reduceOption_cons_of_some] at result
    exact result

theorem null_mem_filledUp (each : List.Forall₂ Value.Denotes values xs) (some : values ≠ [])
    (blank : xs.reduceOption = []) : .null ∈ machine.filledUp values := by
  cases each with
  | nil => exact absurd rfl some
  | @cons v x values xs value rest =>
    have result : (Evaluation.firstFilled machine.interpretation _).Denotes _ :=
      denotes_firstFilled (.cons value (.cons value rest))
    cases x with
    | some p => cases blank
    | none =>
      rw [List.reduceOption_cons_of_none, blank] at result
      exact List.mem_map.2 ⟨v, List.mem_cons_self, result⟩

theorem applyOrder_filledUp (greatest : Bool) (dialect : machine.dialect = .sqlite)
    (each : List.Forall₂ Value.Denotes values xs) (several : 2 ≤ values.length) :
    ∃ c, machine.applyOrder greatest (machine.filledUp values) = some c ∧
      c.Denotes (best? greatest xs.reduceOption) := by
  have length : (machine.filledUp values).length = values.length := List.length_map _
  cases first : xs.reduceOption with
  | nil =>
    have some : values ≠ [] := List.ne_nil_of_length_pos (by omega)
    refine ⟨.null, ?_, best?_eq_none_iff.2 rfl ▸ rfl⟩
    rw [applyOrder, dialect]
    exact (if_neg (by omega)).trans (if_pos (null_mem_filledUp each some first))
  | cons q rest =>
    have numbers : AreNumbers (machine.filledUp values) _ := areNumbers_filledUp each first
    rw [applyOrder_eq_extremum machine greatest (fun v member => numbers.ne_null member)
      (by omega), ← first, ← best?_congr (mem_map_getD_iff first)]
    exact extremum_eq greatest numbers

variable {evaluation : Evaluation machine.interpretation}

def Shows (evaluation : Evaluation machine.interpretation) (es : List Expr)
    (xs : List (Option ℚ)) : Prop :=
  List.Forall₂ (fun e x => ∃ v, evaluation.Gives e v ∧ v.Denotes x) es xs

theorem Shows.exists_values (shows : Shows evaluation es xs) :
    ∃ values, List.Forall₂ evaluation.Gives es values ∧ List.Forall₂ Value.Denotes values xs := by
  induction shows with
  | nil => exact ⟨[], .nil, .nil⟩
  | cons first _ ih =>
    obtain ⟨v, value, denotes⟩ := first
    obtain ⟨values, each, all⟩ := ih
    exact ⟨v :: values, .cons value each, .cons denotes all⟩

theorem Shows.extremumOf {pick : List Expr → Expr} {es : List Expr}
    (picks : ∀ {args values v}, List.Forall₂ evaluation.Gives args values →
      machine.applyOrder greatest values = some v → evaluation.Gives (pick args) v)
    (shows : Shows evaluation es xs) :
    ∃ v, evaluation.Gives (Call.extremumOf machine.dialect pick es) v ∧
      v.Denotes (best? greatest xs.reduceOption) := by
  obtain ⟨values, each, all⟩ := shows.exists_values
  cases es with
  | nil =>
    cases each
    cases all
    refine ⟨.null, ?_, best?_eq_none_iff.2 rfl ▸ rfl⟩
    cases machine.dialect <;> exact evaluation.null
  | cons e es =>
    cases dialect : machine.dialect with
    | postgres =>
      obtain ⟨c, found, denotes⟩ := extremum_eq greatest (areNumbers_filter all)
      refine ⟨c, picks each ?_, denotes⟩
      rw [applyOrder, dialect]
      refine (if_neg ?_).trans found
      rintro rfl
      cases each
    | sqlite =>
      cases es with
      | nil =>
        obtain ⟨⟩ | ⟨value, rest⟩ := each
        cases rest
        obtain ⟨⟩ | ⟨denotes, rest⟩ := all
        cases rest
        exact ⟨_, value, best?_reduceOption_singleton.symm ▸ denotes⟩
      | cons next es =>
        have several : 2 ≤ values.length := by
          rw [← each.length_eq]
          exact Nat.le_add_left 2 es.length
        obtain ⟨c, found, denotes⟩ := applyOrder_filledUp greatest dialect all several
        refine ⟨c, picks ?_ found, denotes⟩
        refine List.forall₂_map_left_iff.2 (List.forall₂_map_right_iff.2 (each.imp ?_))
        intro e v value
        exact Evaluation.gives_coalesce (.cons value each)

end Machine

namespace Call

open Coerce

def numberUnder (call : Call) (operand : Operand) : Except Error Expr :=
  match operand.kind with
  | .json => do
      call.needSubquery
      return jsonNumber call.dialect call.operation.name operand.expr
  | _ => call.toNumber operand

theorem numbers_eq (call : Call) :
    call.numbers call.operation.name =
      (call.operands.filter fun operand => !operand.isBlank).mapM call.numberUnder :=
  rfl

theorem numberUnder_of_isBlank (call : Call) {operand : Operand}
    (blank : operand.isBlank = true) : call.numberUnder operand = .ok .null := by
  have kind : operand.kind = .blank := eq_of_beq blank
  rw [numberUnder, kind]
  change call.toNumber operand = _
  rw [Site.toNumber, kind]

/-- The numeric values of the arguments are these numbers, or null where there is none. -/
structure Assigns (call : Call) {machine : Machine} (evaluation : Evaluation machine.interpretation)
    (numbers : List (Option ℚ)) : Prop where
  dialect : machine.dialect = call.dialect
  each : List.Forall₂ (fun operand x => evaluation.FindsNumber (call.numberUnder operand) x)
    call.operands numbers

def extremumOperation (greatest : Bool) : Operation := if greatest then .max else .min

variable {call : Call} {machine : Machine} {evaluation : Evaluation machine.interpretation}
  {numbers : List (Option ℚ)} {greatest : Bool}

theorem Assigns.exists_numbers (assigns : call.Assigns evaluation numbers) :
    ∃ es xs, call.numbers call.operation.name = .ok es ∧ Machine.Shows evaluation es xs ∧
      xs.reduceOption = numbers.reduceOption := by
  obtain ⟨-, each⟩ := assigns
  rw [numbers_eq]
  generalize call.operands = operands at each
  induction each with
  | nil => exact ⟨[], [], rfl, .nil, rfl⟩
  | @cons operand x operands numbers first _ ih =>
    obtain ⟨es, xs, found, shows, same⟩ := ih
    obtain ⟨v, ⟨e, written, value⟩, denotes⟩ := first
    cases blank : operand.isBlank with
    | true =>
      -- What is left out is null.
      rw [numberUnder_of_isBlank call blank] at written
      cases written
      obtain rfl : v = .null := Option.some.inj (value.symm.trans evaluation.null)
      cases x with
      | some q => cases denotes
      | none =>
        refine ⟨es, xs, ?_, shows, same⟩
        rwa [List.filter_cons_of_neg (by simp [blank])]
    | false =>
      refine ⟨e :: es, x :: xs, ?_, .cons ⟨v, value, denotes⟩ shows, ?_⟩
      · rw [List.filter_cons_of_pos (by simp [blank]), List.mapM_cons, written, found]
        rfl
      · cases x with
        | none => exact same
        | some q => exact congrArg (q :: ·) same

theorem Assigns.finds (assigns : call.Assigns evaluation numbers)
    (operation : call.operation = extremumOperation greatest) :
    evaluation.FindsNumber call.compile (Machine.best? greatest numbers.reduceOption) := by
  obtain ⟨es, xs, found, shows, same⟩ := assigns.exists_numbers
  rw [← same]
  rw [operation] at found
  unfold compile own?
  rw [operation]
  cases greatest with
  | true =>
    obtain ⟨v, value, denotes⟩ := shows.extremumOf Machine.gives_greatest
    refine ⟨v, ⟨_, ?_, value⟩, denotes⟩
    change call.max = _
    rw [max, show call.numbers "MAX" = .ok es from found, assigns.dialect]
    rfl
  | false =>
    obtain ⟨v, value, denotes⟩ := shows.extremumOf Machine.gives_least
    refine ⟨v, ⟨_, ?_, value⟩, denotes⟩
    change call.min = _
    rw [min, show call.numbers "MIN" = .ok es from found, assigns.dialect]
    rfl

theorem Assigns.renders (assigns : call.Assigns evaluation numbers)
    (operation : call.operation = extremumOperation greatest)
    (checked : Target.check call.operation call.args call.hints = .ok ()) :
    ∃ v, call.Renders evaluation v ∧
      v.Denotes (Machine.best? greatest numbers.reduceOption) := by
  obtain ⟨v, finds, denotes⟩ := assigns.finds operation
  exact ⟨v, renders_of_finds checked finds, denotes⟩

def on (call : Call) (target : Target) : Call := { call with target }

end Call

/--
The greatest and the least leave out blanks on both dialects: whatever numbers or nulls the
arguments are, both expressions have the greatest or the least number among them, and null where
there is none.
-/
theorem blanks_left_out_on_both_dialects (call : Call) (greatest : Bool)
    (placement : Dialect → Placement)
    (operation : call.operation = Call.extremumOperation greatest)
    (checked : Target.check call.operation call.args call.hints = .ok ())
    {first second : Machine} {onPostgres : Evaluation first.interpretation}
    {onSqlite : Evaluation second.interpretation} {numbers : List (Option ℚ)}
    (postgres : (call.on ⟨.postgres, placement .postgres⟩).Assigns onPostgres numbers)
    (sqlite : (call.on ⟨.sqlite, placement .sqlite⟩).Assigns onSqlite numbers) :
    (∃ v, (call.on ⟨.postgres, placement .postgres⟩).Renders onPostgres v ∧
        v.Denotes (Machine.best? greatest numbers.reduceOption)) ∧
      ∃ v, (call.on ⟨.sqlite, placement .sqlite⟩).Renders onSqlite v ∧
        v.Denotes (Machine.best? greatest numbers.reduceOption) :=
  ⟨postgres.renders operation checked, sqlite.renders operation checked⟩

def lowestPrice : Call :=
  { job := .ofCatalog (.ofFields []) ⟨0, 0⟩, target := ⟨.sqlite, .select⟩, operation := .min,
    args := ["NULL", "\"price\"", "-2", "1.5"],
    hints := [.empty, ⟨some .number, true, none⟩, .empty, .empty] }

theorem blanks_left_out_on_both_dialects_lowestPrice :
    let evaluation := fun dialect => Evaluation.scalar (Machine.blank dialect).interpretation
    Target.check .min lowestPrice.args lowestPrice.hints = .ok () ∧
      (∀ dialect, (lowestPrice.on ⟨dialect, .select⟩).Assigns (evaluation dialect)
        [none, none, some (-2), some (3 / 2)]) ∧
      ∀ dialect, ∃ v, (lowestPrice.on ⟨dialect, .select⟩).Renders (evaluation dialect) v ∧
        v.Denotes (some (-2)) := by
  intro evaluation
  have assigned : ∀ dialect, (lowestPrice.on ⟨dialect, .select⟩).Assigns (evaluation dialect)
      [none, none, some (-2), some (3 / 2)] := by
    intro dialect
    have operands : (lowestPrice.on ⟨dialect, .select⟩).operands =
        [⟨"NULL", .blank, true, .unknown, none⟩,
          .ofHint "\"price\"" (some ⟨some .number, true, none⟩),
          ⟨"-2", .number, true, .unknown, none⟩, ⟨"1.5", .number, true, .unknown, none⟩] := rfl
    have price : (Machine.blank dialect).fragment "\"price\"" = .null := by cases dialect <;> rfl
    have whole : (Machine.blank dialect).fragment "-2" = .int (-2) := rfl
    have half : (Machine.blank dialect).fragment "1.5" = .real (3 / 2) := by
      change Value.real (Decimal.value ⟨false, 15, -1⟩) = _
      norm_num [Decimal.value]
    refine ⟨rfl, ?_⟩
    rw [operands]
    refine .cons ?_ (.cons ?_ (.cons ?_ (.cons ?_ .nil)))
    · exact ⟨.null, ⟨.null, rfl, (evaluation dialect).null⟩, rfl⟩
    · exact ⟨.null, ⟨_, rfl, Machine.gives_double price rfl rfl⟩, rfl⟩
    · exact ⟨.real (-2), ⟨_, rfl, Machine.gives_double whole rfl rfl⟩, rfl⟩
    · exact ⟨.real (3 / 2), ⟨_, rfl, Machine.gives_double half rfl rfl⟩, rfl⟩
  have lowest : Machine.best? false [-2, 3 / 2] = some (-2) := by
    rw [Machine.best?_cons]
    exact congrArg some (min_eq_left (by norm_num))
  have checked : Target.check .min lowestPrice.args lowestPrice.hints = .ok () := rfl
  have both := blanks_left_out_on_both_dialects lowestPrice false (fun _ => .select) rfl checked
    (assigned .postgres) (assigned .sqlite)
  refine ⟨checked, assigned, fun dialect => ?_⟩
  cases dialect with
  | postgres => exact lowest ▸ both.1
  | sqlite => exact lowest ▸ both.2

end SheetSql
