import SheetSql.Proofs.Embedding.Render

namespace SheetSql

/-! Hints that tell nothing new. -/

open Operand

def Sql.IsConstant (sql : String) : Prop :=
  isNullLiteral sql = true ∨ (numberLiteral? sql).isSome ∨ (textLiteral? sql).isSome ∨
    (boolLiteral? sql).isSome

/-- A hint that tells nothing new about an argument. -/
inductive Hint.Redundant (job : Job) (sql : String) : Hint → Prop
  /-- No hint counts for a constant. -/
  | constant (spelled : Sql.IsConstant sql) (hint : Hint) : Redundant job sql hint
  /-- The argument is a column, and the hint is the field that the catalog has for it. -/
  | column {reference : Sql.Reference} {field : Field}
      (named : Sql.reference? sql = some reference)
      (known : job.catalog.byColumn? reference.name = some field) :
      Redundant job sql (.ofField field)
  | silent : Redundant job sql .empty

theorem isSome_literalKind? {sql : String} (spelled : Sql.IsConstant sql) :
    (literalKind? sql).isSome := by
  unfold literalKind?
  split
  · rfl
  · next other =>
      split
      · rfl
      · rfl
      · rfl
      · next number text bool =>
          rcases spelled with null | some | some | some
          · exact absurd null other
          · rw [number] at some
            exact some
          · rw [text] at some
            exact some
          · rw [bool] at some
            exact some

section

variable {job : Job} {sql : String}

theorem classify_ofField (plain : literalKind? sql = none) {field : Field}
    (found : fieldOf? job sql = some field) :
    classify job sql (some (.ofField field)) = ofField sql field := by
  unfold classify
  rw [plain, found]
  dsimp only
  split <;> rfl

theorem classify_none_of_field (plain : literalKind? sql = none) {field : Field}
    (found : fieldOf? job sql = some field) : classify job sql none = ofField sql field := by
  unfold classify
  rw [plain, found]
  rfl

/-- A hint that says nothing is no hint, but for the fact that there is one. -/
theorem classify_empty_alike (l : Likeness) (same : l.texts sql sql) :
    (classify job sql (some .empty)).Alike l (classify job sql none) := by
  unfold classify
  cases literalKind? sql with
  | some kind => exact ⟨same, rfl, rfl, fun _ => rfl, rfl⟩
  | none =>
    cases fieldOf? job sql with
    | some field => exact ⟨same, rfl, rfl, fun _ => rfl, rfl⟩
    | none =>
      refine ⟨same, rfl, rfl, ?_, rfl⟩
      intro isJson
      cases isJson

theorem classify_redundant (l : Likeness) (same : l.texts sql sql) {hint : Hint}
    (redundant : hint.Redundant job sql) :
    (classify job sql (some hint)).Alike l (classify job sql none) := by
  cases redundant with
  | constant spelled hint =>
    obtain ⟨kind, found⟩ := Option.isSome_iff_exists.1 (isSome_literalKind? spelled)
    unfold classify
    rw [found]
    exact ⟨same, rfl, rfl, fun _ => rfl, rfl⟩
  | @column reference field named known =>
    have found : fieldOf? job sql = some field := by
      rw [fieldOf?, named, Option.bind_some, known]
    cases plain : literalKind? sql with
    | some kind =>
      unfold classify
      rw [plain]
      exact ⟨same, rfl, rfl, fun _ => rfl, rfl⟩
    | none =>
      rw [classify_ofField plain found, classify_none_of_field plain found]
      exact ⟨same, rfl, rfl, fun _ => rfl, rfl⟩
  | silent => exact classify_empty_alike l same

end

theorem mapIdx_classify_redundant (l : Likeness) (same : ∀ sql, l.texts sql sql)
    (redundant : List.Forall₂ (Hint.Redundant job) args hints) :
    List.Forall₂ (Operand.Alike l) (args.mapIdx fun i sql => classify job sql hints[i]?)
      (args.mapIdx fun _ sql => classify job sql none) := by
  induction redundant with
  | nil => exact .nil
  | cons head _ ih =>
    rw [List.mapIdx_cons, List.mapIdx_cons]
    exact .cons (classify_redundant l (same _) head) ih

theorem check_of_count {operation : Operation} {args : List String} {hints : List Hint}
    (count : args.length = hints.length) :
    Target.check operation args hints = Target.check operation args [] := by
  unfold Target.check
  rw [count]
  simp

/--
Hints that tell nothing new about any argument can be left out: every call has the same text or
the same error without them.
-/
theorem render_redundant_hints (target : Target) (job : Job) (name : String) (args : List String)
    (hints : List Hint) (redundant : List.Forall₂ (Hint.Redundant job) args hints) :
    target.render job name args hints = target.render job name args [] := by
  apply render_eq_of_alike
  · intro operation
    exact check_of_count redundant.length_eq
  · intro operation
    exact mapIdx_classify_redundant .operands (fun _ => ⟨rfl, rfl⟩) redundant

def dueField : Field :=
  (Field.ofStorage "fld1" "due" .datetime).withFormatting ⟨none, none, some "Asia/Tokyo"⟩

def dueJob : Job := .ofCatalog (.ofFields [dueField]) ⟨0, 0⟩

def dueArgs : List String := ["f(x)", "\"t\".\"due\"", "('2024-01-05')"]

def dueHints : List Hint := [.empty, .ofField dueField, ⟨some .number, false, none⟩]

theorem render_redundant_hints_due :
    List.Forall₂ (Hint.Redundant dueJob) dueArgs dueHints ∧
      Target.render ⟨.sqlite, .select⟩ dueJob "if" dueArgs dueHints =
        Target.render ⟨.sqlite, .select⟩ dueJob "if" dueArgs [] := by
  have column : Sql.reference? "\"t\".\"due\"" = some ⟨some "t", "due"⟩ := by rfl
  have redundant : List.Forall₂ (Hint.Redundant dueJob) dueArgs dueHints :=
    .cons .silent
      (.cons (.column column rfl) (.cons (.constant (.inr (.inr (.inl rfl))) _) .nil))
  exact ⟨redundant, render_redundant_hints _ _ _ _ _ redundant⟩

end SheetSql
