import Mathlib.Data.List.Forall2
import Mathlib.Data.List.ReduceOption
import SheetSql.Sql.Build

namespace SheetSql

/-!
The value of an expression under any interpretation of its operators and functions. Branches are
tried in their order, and what is not reached is not evaluated. A result of `none` stands for a
failure, and also for what is left open here.
-/

structure Interpretation (D : Type) where
  null : D
  isNull : D → Bool
  bool : Bool → D
  number : List Char → Option D
  text : List Char → D
  /-- The values of expressions that are only known by their texts. -/
  fragment : String → D
  call : String → List D → Option D
  binary : BinOp → D → D → Option D
  unary : UnOp → D → Option D
  cast : SqlType → D → Option D
  extract : String → D → Option D
  atTimeZone : D → D → Option D
  slice : D → (lower upper : Option D) → Option D
  /-- Whether a value counts as true. One that is null is neither true nor false. -/
  holds? : D → Option (Option Bool)
  isNull_null : isNull null = true
  holds?_bool : ∀ b, holds? (bool b) = some (some b)

structure Table (D : Type) where
  columns : List String
  rows : List (List D)

structure Frame (D : Type) where
  column? : (qualifier : Option String) → (name : String) → Option D
  table? : String → Option (Table D)

namespace Frame

variable {D : Type}

def empty : Frame D := ⟨fun _ _ => none, fun _ => none⟩

def withTable (frame : Frame D) (name : String) (table : Table D) : Frame D :=
  { frame with table? := fun other => if other = name then some table else frame.table? other }

def withRow (frame : Frame D) (name : String) (columns : List String) (row : List D) : Frame D :=
  { frame with
    column? := fun qualifier column =>
      (if qualifier.all (· == name) then (columns.zip row).lookup column else none).or
        (frame.column? qualifier column) }

def rowsOf (frame : Frame D) : Option Source → Option (List (Frame D))
  | none => some [frame]
  | some (.table name) =>
    (frame.table? name).map fun table => table.rows.map (frame.withRow name table.columns)
  | some _ => none

end Frame

section

variable {D : Type} {step : List (List D) → Option (List (List D))}

/-- All rows of a table whose first round is given. Each round is made from the one before. -/
inductive Grows (step : List (List D) → Option (List (List D))) :
    List (List D) → List (List D) → Prop
  | done : Grows step [] []
  | more {rows next later : List (List D)} (filled : rows ≠ []) (made : step rows = some next)
      (rest : Grows step next later) : Grows step rows (rows ++ later)

theorem Grows.unique (one : Grows step rows all) (other : Grows step rows others) :
    all = others := by
  induction one generalizing others with
  | done =>
    cases other with
    | done => rfl
    | more filled => exact absurd rfl filled
  | more filled made _ ih =>
    cases other with
    | done => exact absurd rfl filled
    | more _ again rest =>
      rw [made] at again
      cases again
      rw [ih rest]

open Classical in
noncomputable def grown? (step : List (List D) → Option (List (List D))) (rows : List (List D)) :
    Option (List (List D)) :=
  if found : ∃ all, Grows step rows all then some found.choose else none

theorem grown?_of_grows (grows : Grows step rows all) : grown? step rows = some all := by
  have found : ∃ all, Grows step rows all := ⟨all, grows⟩
  rw [grown?, dif_pos found, found.choose_spec.unique grows]

end

mutual

noncomputable def Expr.denote {D : Type} (engine : Interpretation D) (frame : Frame D) :
    Expr → Option D
  | .null => some engine.null
  | .bool b => some (engine.bool b)
  | .number digits => engine.number digits.toList
  | .text content => some (engine.text content.toList)
  | .column qualifier name => frame.column? qualifier name
  | .fragment sql => some (engine.fragment sql)
  | .call function args =>
    if function = "COALESCE" then denoteFirst engine frame args
    else (denoteEach engine frame args).bind (engine.call function)
  | .binary left op right => do
      engine.binary op (← left.denote engine frame) (← right.denote engine frame)
  | .chain op items => do
      match ← denoteEach engine frame items with
      | [] => none
      | first :: rest => rest.foldlM (engine.binary op) first
  | .unary op operand => (operand.denote engine frame).bind (engine.unary op)
  | .nullTest operand negated =>
    (operand.denote engine frame).map fun d => engine.bool (engine.isNull d != negated)
  | .cast operand type => (operand.denote engine frame).bind (engine.cast type)
  | .case none branches otherwise =>
    denoteBranches engine frame (denoteOptional engine frame otherwise) branches
  | .atTimeZone operand zone => do
      engine.atTimeZone (← operand.denote engine frame) (← zone.denote engine frame)
  | .extract field operand => (operand.denote engine frame).bind (engine.extract field)
  | .slice array lower upper => do
      engine.slice (← array.denote engine frame) (← denoteBound engine frame lower)
        (← denoteBound engine frame upper)
  | .subquery query => do
      -- A query for one value has the first column of its first row.
      match ← query.denote engine frame with
      | [] => return engine.null
      | row :: _ => row.head?
  | _ => none

noncomputable def denoteEach {D : Type} (engine : Interpretation D) (frame : Frame D) :
    List Expr → Option (List D)
  | [] => some []
  | e :: rest => do return (← e.denote engine frame) :: (← denoteEach engine frame rest)

noncomputable def denoteFirst {D : Type} (engine : Interpretation D) (frame : Frame D) :
    List Expr → Option D
  | [] => some engine.null
  | e :: rest => do
      let d ← e.denote engine frame
      if engine.isNull d then denoteFirst engine frame rest else return d

noncomputable def denoteBound {D : Type} (engine : Interpretation D) (frame : Frame D) :
    Option Expr → Option (Option D)
  | none => some none
  | some e => (e.denote engine frame).map some

noncomputable def denoteOptional {D : Type} (engine : Interpretation D) (frame : Frame D) :
    Option Expr → Option D
  | none => some engine.null
  | some e => e.denote engine frame

noncomputable def denoteBranches {D : Type} (engine : Interpretation D) (frame : Frame D)
    (default : Option D) : List Branch → Option D
  | [] => default
  | ⟨condition, value⟩ :: rest => do
      let holds ← engine.holds? (← condition.denote engine frame)
      if holds = some true then value.denote engine frame
      else denoteBranches engine frame default rest

noncomputable def denoteFilter {D : Type} (engine : Interpretation D) (frame : Frame D) :
    Option Expr → Option Bool
  | none => some true
  | some e => do return (← engine.holds? (← e.denote engine frame)) = some true

noncomputable def denoteColumns {D : Type} (engine : Interpretation D) (frame : Frame D) :
    List Projection → Option (List D)
  | [] => some []
  | ⟨e, _⟩ :: rest => do return (← e.denote engine frame) :: (← denoteColumns engine frame rest)

noncomputable def Select.denote {D : Type} (engine : Interpretation D) (frame : Frame D) :
    Select → Option (List (List D))
  | ⟨recursion, columns, source, none, filter, []⟩ => do
      let inner ← denoteRecursion engine frame recursion
      let rows ← (← inner.rowsOf source).mapM fun row => do
        if ← denoteFilter engine row filter then return some (← denoteColumns engine row columns)
        else return none
      return rows.reduceOption
  | _ => none

noncomputable def denoteRecursion {D : Type} (engine : Interpretation D) (frame : Frame D) :
    Option Recursion → Option (Frame D)
  | none => some frame
  | some ⟨name, columns, anchor, step⟩ => do
      let round := fun rows => step.denote engine (frame.withTable name ⟨columns, rows⟩)
      let rows ← grown? round (← anchor.denote engine frame)
      return frame.withTable name ⟨columns, rows⟩

end

section

variable {D : Type} {engine : Interpretation D} {frame : Frame D}

-- The equations of the evaluation, with which the rules below open.
attribute [local simp] Expr.denote denoteEach denoteFirst denoteBound denoteOptional denoteBranches
  denoteFilter denoteColumns Select.denote denoteRecursion

def Expr.Denotes (engine : Interpretation D) (frame : Frame D) (e : Expr) (d : D) : Prop :=
  e.denote engine frame = some d

theorem denoteEach_of_forall₂ (each : List.Forall₂ (Expr.Denotes engine frame) args data) :
    denoteEach engine frame args = some data := by
  induction each with
  | nil => rw [denoteEach]
  | cons first _ ih =>
    rw [denoteEach, first, ih]
    rfl

theorem denoteBranches_cons {condition value : Expr} {rest : List Branch} {default : Option D}
    {d : D} {truth : Option Bool} (test : condition.Denotes engine frame d)
    (counts : engine.holds? d = some truth) :
    denoteBranches engine frame default (⟨condition, value⟩ :: rest) =
      if truth = some true then value.denote engine frame
      else denoteBranches engine frame default rest := by
  rw [denoteBranches, test]
  change (do
    let holds ← engine.holds? d
    if holds = some true then value.denote engine frame
    else denoteBranches engine frame default rest) = _
  rw [counts]
  rfl

namespace Expr.Denotes

theorem null : Denotes engine frame .null engine.null := by rw [Denotes, denote]

theorem number {digits : String} {d : D} (read : engine.number digits.toList = some d) :
    Denotes engine frame (.number digits) d := by rw [Denotes, denote, read]

theorem text (content : String) :
    Denotes engine frame (.text content) (engine.text content.toList) := by
  rw [Denotes, denote]

theorem column {qualifier : Option String} {name : String} {d : D}
    (known : frame.column? qualifier name = some d) :
    Denotes engine frame (.column qualifier name) d := by
  rw [Denotes, denote, known]

theorem fragment (sql : String) : Denotes engine frame (.fragment sql) (engine.fragment sql) := by
  rw [Denotes, denote]

theorem call {function : String} {args : List Expr} {data : List D} {d : D}
    (other : function ≠ "COALESCE") (each : List.Forall₂ (Denotes engine frame) args data)
    (result : engine.call function data = some d) :
    Denotes engine frame (.call function args) d := by
  rw [Denotes, denote, if_neg other, denoteEach_of_forall₂ each]
  exact result

theorem orElse {default : Expr} (first : Denotes engine frame operand a)
    (second : engine.isNull a = true → Denotes engine frame default b)
    (filled : engine.isNull a = true → engine.isNull b = false)
    (kept : engine.isNull a = false → a = b) : Denotes engine frame (operand.orElse default) b := by
  rw [Denotes, Expr.orElse, Expr.coalesce, denote, if_pos rfl, denoteFirst, first]
  change (if engine.isNull a = true then denoteFirst engine frame [default] else some a) = _
  cases null : engine.isNull a with
  | false => rw [if_neg Bool.false_ne_true, kept null]
  | true =>
    rw [if_pos rfl, denoteFirst, second null]
    change (if engine.isNull b = true then denoteFirst engine frame [] else some b) = _
    rw [filled null, if_neg Bool.false_ne_true]

theorem binary (first : Denotes engine frame left a) (second : Denotes engine frame right b)
    (result : engine.binary op a b = some d) : Denotes engine frame (.binary left op right) d := by
  rw [Denotes, denote, first, second]
  exact result

theorem chain (each : List.Forall₂ (Denotes engine frame) items (first :: rest))
    (result : rest.foldlM (engine.binary op) first = some d) :
    Denotes engine frame (.chain op items) d := by
  rw [Denotes, denote, denoteEach_of_forall₂ each]
  exact result

theorem unary (value : Denotes engine frame operand a) (result : engine.unary op a = some d) :
    Denotes engine frame (.unary op operand) d := by
  rw [Denotes, denote, value]
  exact result

theorem nullTest (negated : Bool) (value : Denotes engine frame operand a) :
    Denotes engine frame (.nullTest operand negated)
      (engine.bool (engine.isNull a != negated)) := by
  rw [Denotes, denote, value, Option.map_some]

theorem cast (value : Denotes engine frame operand a) (result : engine.cast type a = some d) :
    Denotes engine frame (operand.cast type) d := by
  rw [Denotes, denote, value]
  exact result

theorem atTimeZone (first : Denotes engine frame operand a) (second : Denotes engine frame zone b)
    (result : engine.atTimeZone a b = some d) :
    Denotes engine frame (operand.atTimeZone zone) d := by
  rw [Denotes, denote, first, second]
  exact result

theorem extract {field : String} {operand : Expr} {a d : D}
    (value : Denotes engine frame operand a) (result : engine.extract field a = some d) :
    Denotes engine frame (.extract field operand) d := by
  rw [Denotes, denote, value]
  exact result

theorem sliceTo (value : Denotes engine frame array a) (first : Denotes engine frame lower b)
    (last : Denotes engine frame upper c) (result : engine.slice a (some b) (some c) = some d) :
    Denotes engine frame (.slice array (some lower) (some upper)) d := by
  rw [Denotes, denote, value, denoteBound, denoteBound, first, last]
  exact result

theorem sliceFrom (value : Denotes engine frame array a) (first : Denotes engine frame lower b)
    (result : engine.slice a (some b) none = some d) :
    Denotes engine frame (.slice array (some lower) none) d := by
  rw [Denotes, denote, value, denoteBound, denoteBound, first]
  exact result

theorem caseCons {p : Prop} [Decidable p] {condition value : Expr} {rest : List Branch}
    {otherwise : Option Expr} {d : D}
    (test : Denotes engine frame condition (engine.bool (decide p)))
    (taken : p → Denotes engine frame value d)
    (passed : ¬p → Denotes engine frame (.caseWhen rest otherwise) d) :
    Denotes engine frame (.caseWhen (⟨condition, value⟩ :: rest) otherwise) d := by
  rw [Denotes, Expr.caseWhen, denote, denoteBranches_cons test (engine.holds?_bool _)]
  by_cases holds : p
  · rw [if_pos (congrArg some (decide_eq_true holds))]
    exact taken holds
  · have rest := passed holds
    rw [Denotes, Expr.caseWhen, denote] at rest
    rw [decide_eq_false holds, if_neg (by decide)]
    exact rest

theorem caseNil (value : Denotes engine frame e d) :
    Denotes engine frame (.caseWhen [] (some e)) d := by
  rw [Denotes, Expr.caseWhen, denote, denoteBranches, denoteOptional, value]

theorem ite [Decidable p] (test : Denotes engine frame condition (engine.bool (decide p)))
    (taken : p → Denotes engine frame whenTrue d) (passed : ¬p → Denotes engine frame whenFalse d) :
    Denotes engine frame (.ite condition whenTrue whenFalse) d :=
  .caseCons test taken fun other => .caseNil (passed other)

theorem subqueryNone {query : Select} (rows : query.denote engine frame = some []) :
    Denotes engine frame (.subquery query) engine.null := by
  rw [Denotes, denote, rows]
  rfl

theorem subqueryOne {query : Select} (rows : query.denote engine frame = some [[d]]) :
    Denotes engine frame (.subquery query) d := by
  rw [Denotes, denote, rows]
  rfl

end Expr.Denotes

theorem denoteColumns_of_forall₂ (each : List.Forall₂ (Expr.Denotes engine frame) columns row) :
    denoteColumns engine frame (columns.map (⟨·, none⟩)) = some row := by
  induction each with
  | nil => rw [List.map_nil, denoteColumns]
  | cons first _ ih =>
    rw [List.map_cons, denoteColumns, first, ih]
    rfl

theorem denote_select (each : List.Forall₂ (Expr.Denotes engine frame) columns row) :
    (Select.of (columns.map (⟨·, none⟩))).denote engine frame = some [row] := by
  rw [Select.of, Select.denote, denoteRecursion, Option.bind_eq_bind, Option.bind_some]
  rw [Frame.rowsOf, Option.bind_eq_bind, Option.bind_some, List.mapM_cons, denoteFilter]
  rw [denoteColumns_of_forall₂ each]
  rfl

theorem denoteFilter_of_test [Decidable p] {condition : Expr}
    (test : condition.Denotes engine frame (engine.bool (decide p))) :
    denoteFilter engine frame (some condition) = some (decide p) := by
  rw [denoteFilter, test]
  change (do return (← engine.holds? (engine.bool (decide p))) = some true) = some (decide p)
  rw [engine.holds?_bool]
  cases decide p <;> rfl

theorem mapM_of_forall {α β : Type} {g : α → Option β} {h : α → β} {items : List α}
    (each : ∀ a ∈ items, g a = some (h a)) : items.mapM g = some (items.map h) := by
  induction items with
  | nil => rfl
  | cons a items ih =>
    rw [List.mapM_cons, each a List.mem_cons_self,
      ih fun b member => each b (List.mem_cons_of_mem a member)]
    rfl

theorem reduceOption_choice {α β : Type} (p : α → Prop) [DecidablePred p] (f : α → β)
    (items : List α) :
    (items.map fun a => if p a then some (f a) else none).reduceOption =
      (items.filter fun a => decide (p a)).map f := by
  induction items with
  | nil => rfl
  | cons a items ih =>
    rw [List.map_cons]
    by_cases holds : p a
    · rw [if_pos holds, List.reduceOption_cons_of_some, ih, List.filter_cons_of_pos (by simpa),
        List.map_cons]
    · rw [if_neg holds, List.reduceOption_cons_of_none, ih, List.filter_cons_of_neg (by simpa)]

theorem denote_select_rows {α : Type} (items : List α) (row : α → List D) {p : α → Prop}
    [DecidablePred p] {f : α → List D} {recursion : Option Recursion} {inner : Frame D}
    {name : String} {labels : List String} {columns : List Expr} {condition : Expr}
    (enters : denoteRecursion engine frame recursion = some inner)
    (known : inner.table? name = some ⟨labels, items.map row⟩)
    (test : ∀ a ∈ items, condition.Denotes engine (inner.withRow name labels (row a))
      (engine.bool (decide (p a))))
    (value : ∀ a ∈ items, p a →
      List.Forall₂ (Expr.Denotes engine (inner.withRow name labels (row a))) columns (f a)) :
    Select.denote engine frame
        ⟨recursion, columns.map (⟨·, none⟩), some (.table name), none, some condition, []⟩ =
      some ((items.filter fun a => decide (p a)).map f) := by
  rw [Select.denote, enters, Option.bind_eq_bind, Option.bind_some, Frame.rowsOf, known,
    Option.map_some, Option.bind_eq_bind, Option.bind_some, List.map_map, List.mapM_map,
    ← reduceOption_choice p f items, Option.bind_eq_bind]
  rw [mapM_of_forall fun a member => ?_, Option.bind_some]
  · rfl
  · change (do
      if ← denoteFilter engine (inner.withRow name labels (row a)) (some condition) then
        return some (← denoteColumns engine (inner.withRow name labels (row a))
          (columns.map (⟨·, none⟩)))
      else return none) = _
    rw [denoteFilter_of_test (test a member), Option.bind_eq_bind, Option.bind_some]
    by_cases holds : p a
    · rw [denoteColumns_of_forall₂ (value a member holds), if_pos (decide_eq_true holds),
        if_pos holds]
      rfl
    · rw [if_neg (by simpa), if_neg holds]
      rfl

/-- A table grows from its first round on by what a query makes of the round before. -/
theorem denoteRecursion_of_grows {anchor step : Select}
    (starts : anchor.denote engine frame = some rows)
    (grows : Grows (fun rows => step.denote engine (frame.withTable name ⟨labels, rows⟩)) rows
      all) :
    denoteRecursion engine frame (some ⟨name, labels, anchor, step⟩) =
      some (frame.withTable name ⟨labels, all⟩) := by
  rw [denoteRecursion, starts, Option.bind_eq_bind, Option.bind_some, grown?_of_grows grows]
  rfl

end

end SheetSql
