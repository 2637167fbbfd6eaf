import SheetSql.Proofs.Meaning.Division
import SheetSql.Proofs.Query.Truth

namespace SheetSql

/-! Combinations of truth values, for any number of operands. -/

open Coerce Database

def Database.Scope.empty : Scope := fun _ _ => none

open Classical in
noncomputable def Database.truth (db : Database) (site : Site) (operand : Operand) : Bool :=
  decide (∃ e, site.toBool operand = .ok e ∧
    e.Answers db .empty (.value (.ofBool db.dialect true)))

def Operation.combine? : Operation → Option (List Bool → Bool)
  | .and | .logicalAnd => some fun truths => truths.all id
  | .or | .logicalOr => some fun truths => truths.any id
  | .not => some fun truths => truths == [false]
  | .xor => some fun truths => truths.count true % 2 == 1
  | _ => none

section

variable {db : Database} {call : Call} {scope : Scope}

open Classical in
theorem answers_toBool (site : Site) (same : db.dialect = site.target.dialect) {operand : Operand}
    (held : db.Holds operand) :
    ∃ e, site.toBool operand = .ok e ∧
      e.Answers db .empty (.value (.ofBool db.dialect (db.truth site operand))) := by
  obtain ⟨e, found, b, value⟩ := isTruth_toBool site same held
  refine ⟨e, found, ?_⟩
  suffices same : db.truth site operand = b by rwa [same]
  cases b with
  | true => exact decide_eq_true ⟨e, found, value⟩
  | false =>
    refine decide_eq_false fun ⟨other, again, counts⟩ => ?_
    rw [found] at again
    cases again
    have equal := value.symm.trans counts
    cases dialect : db.dialect <;> rw [dialect] at equal <;> cases equal

theorem exists_mapM_ok {α β γ : Type} (f : α → Except Error β) (r : β → γ → Prop) (g : α → γ)
    {list : List α} (each : ∀ a ∈ list, ∃ b, f a = .ok b ∧ r b (g a)) :
    ∃ results, list.mapM f = .ok results ∧ List.Forall₂ r results (list.map g) := by
  induction list with
  | nil => exact ⟨[], rfl, .nil⟩
  | cons first rest ih =>
    obtain ⟨b, found, related⟩ := each first List.mem_cons_self
    obtain ⟨results, more, others⟩ := ih fun a member => each a (List.mem_cons_of_mem _ member)
    refine ⟨b :: results, ?_, .cons related others⟩
    rw [List.mapM_cons, found, more]
    rfl

theorem answers_sequence {α : Type} {op : BinOp} {items : List Expr} {shown : α → Datum}
    {f : α → α → α} {first : α} {rest : List α}
    (each : List.Forall₂ (Expr.Answers db scope) items ((first :: rest).map shown))
    (step : ∀ areIntegers a b,
      db.binary op areIntegers (shown a) (shown b) = some (shown (f a b))) :
    (Expr.sequence op items).Answers db scope (shown (rest.foldl f first)) := by
  cases each with
  | cons one others =>
    cases rest with
    | nil =>
      cases others
      exact one
    | cons next rest =>
      cases others with
      | cons two others =>
        exact .chain (.cons one (.cons two others)) fun areIntegers =>
          chain_eq (step areIntegers) first (next :: rest)

theorem exists_truths (suits : db.Suits call) :
    ∃ items, call.operands.mapM call.toBool = .ok items ∧
      List.Forall₂ (Expr.Answers db .empty) items
        ((call.operands.map (db.truth call.toSite)).map fun b =>
          .value (.ofBool db.dialect b)) := by
  rw [List.map_map]
  exact exists_mapM_ok _ _ _ fun operand member =>
    answers_toBool call.toSite suits.dialect (suits.holds member)

theorem binary_allTrue (areIntegers a b : Bool) :
    db.binary .and areIntegers (.value (.ofBool db.dialect a)) (.value (.ofBool db.dialect b)) =
      some (.value (.ofBool db.dialect (a && b))) := by
  refine (binary_and areIntegers (some a) (some b)).trans ?_
  cases a <;> cases b <;> rfl

theorem binary_anyTrue (areIntegers a b : Bool) :
    db.binary .or areIntegers (.value (.ofBool db.dialect a)) (.value (.ofBool db.dialect b)) =
      some (.value (.ofBool db.dialect (a || b))) := by
  refine (binary_or areIntegers (some a) (some b)).trans ?_
  rw [Value.orTruth_some]
  rfl

theorem binary_add {areIntegers : Bool} (m n : Int) :
    db.binary .add areIntegers (.value (.int m)) (.value (.int n)) = some (.value (.int (m + n))) :=
  rfl

theorem truths_ne_nil (given : call.args ≠ []) :
    call.operands.map (db.truth call.toSite) ≠ [] := by
  intro none
  rw [List.map_eq_nil_iff, Call.operands, List.mapIdx_eq_nil_iff] at none
  exact given none

theorem answers_logical (suits : db.Suits call) (given : call.args ≠ []) {op : BinOp}
    {f : Bool → Bool → Bool}
    (step : ∀ areIntegers a b,
      db.binary op areIntegers (.value (.ofBool db.dialect a)) (.value (.ofBool db.dialect b)) =
        some (.value (.ofBool db.dialect (f a b)))) :
    ∃ e first rest, call.logical op = .ok e ∧
      call.operands.map (db.truth call.toSite) = first :: rest ∧
      e.Answers db .empty (.value (.ofBool db.dialect (rest.foldl f first))) := by
  obtain ⟨items, compiled, each⟩ := exists_truths suits
  cases truths : call.operands.map (db.truth call.toSite) with
  | nil => exact absurd truths (truths_ne_nil given)
  | cons first rest =>
    rw [truths] at each
    refine ⟨_, first, rest, ?_, rfl, answers_sequence each step⟩
    rw [Call.logical, compiled]
    rfl

theorem foldl_and (first : Bool) (rest : List Bool) :
    rest.foldl (· && ·) first = (first :: rest).all id := by
  induction rest generalizing first with
  | nil => simp
  | cons next rest ih =>
    rw [List.foldl_cons, ih]
    simp [Bool.and_assoc]

theorem foldl_or (first : Bool) (rest : List Bool) :
    rest.foldl (· || ·) first = (first :: rest).any id := by
  induction rest generalizing first with
  | nil => simp
  | cons next rest ih =>
    rw [List.foldl_cons, ih]
    simp [Bool.or_assoc]

theorem foldl_ones (first : Int) (truths : List Bool) :
    (truths.map fun b => if b then (1 : Int) else 0).foldl (· + ·) first =
      first + truths.count true := by
  induction truths generalizing first with
  | nil => simp
  | cons next rest ih =>
    rw [List.map_cons, List.foldl_cons, ih]
    cases next with
    | true =>
      rw [List.count_cons_self]
      push_cast
      simp
      omega
    | false => simp

theorem foldl_ones_cons (first : Bool) (rest : List Bool) :
    (rest.map fun b => if b then (1 : Int) else 0).foldl (· + ·) (if first then 1 else 0) =
      (((first :: rest).count true : Nat) : Int) := by
  rw [foldl_ones]
  cases first with
  | true =>
    rw [List.count_cons_self, if_pos rfl]
    push_cast
    omega
  | false => simp

theorem answers_one : (1 : Expr).Answers db scope (.value (.int 1)) := by
  have read : Decimal.read? "1".toList = some ⟨false, 1, 0⟩ := rfl
  exact .number read

theorem answers_two : (2 : Expr).Answers db scope (.value (.int 2)) := by
  have read : Decimal.read? "2".toList = some ⟨false, 2, 0⟩ := rfl
  exact .number read

theorem answers_oneOrZero {e : Expr} {b : Bool}
    (truth : e.Answers db scope (.value (.ofBool db.dialect b))) :
    (Expr.ite e 1 0).Answers db scope (.value (.int (if b then 1 else 0))) := by
  refine .caseWhen ?_
  rw [answerBranches_cons truth (Value.holds?_ofTruth db.dialect (some b)), answerBranches,
    answerOptional]
  cases b with
  | true => exact (answers_one : (1 : Expr).Answers db scope _)
  | false => exact (answers_zero : (0 : Expr).Answers db scope _)

theorem answers_isOdd {e : Expr} {n : Nat} (count : e.Answers db scope (.value (.int n))) :
    ((e % 2).eq 1).Answers db scope (.value (.ofBool db.dialect (n % 2 == 1))) := by
  have rest : (e % 2).Answers db scope (.value (.int (n.mod 2 : Nat))) :=
    .binary count answers_two fun _ => rfl
  refine .binary rest answers_one fun areIntegers => ?_
  have same : (((n.mod 2 : Nat) : Int) : ℚ) = ((1 : Int) : ℚ) ↔ n % 2 = 1 := by
    rw [Int.cast_inj]
    exact Int.ofNat_inj
  change some (Datum.value (.ofBool db.dialect
    ((((n.mod 2 : Nat) : Int) : ℚ) == ((1 : Int) : ℚ)))) = _
  congr 3
  rw [Bool.eq_iff_iff, beq_iff_eq, beq_iff_eq, same]

theorem answers_xor (suits : db.Suits call) (given : call.args ≠ []) :
    ∃ e, call.xor = .ok e ∧
      e.Answers db .empty (.value (.ofBool db.dialect
        ((call.operands.map (db.truth call.toSite)).count true % 2 == 1))) := by
  have one : ∀ operand ∈ call.operands,
      ∃ e, (do return Expr.ite (← call.toBool operand) 1 0 : Except Error Expr) = .ok e ∧
        e.Answers db .empty (.value (.int (if db.truth call.toSite operand then 1 else 0))) := by
    intro operand member
    obtain ⟨e, found, value⟩ := answers_toBool call.toSite suits.dialect (suits.holds member)
    refine ⟨.ite e 1 0, ?_, answers_oneOrZero value⟩
    rw [found]
    rfl
  obtain ⟨ones, compiled, each⟩ := exists_mapM_ok _ (Expr.Answers db .empty)
    (fun operand => .value (.int (if db.truth call.toSite operand then 1 else 0))) one
  cases truths : call.operands.map (db.truth call.toSite) with
  | nil => exact absurd truths (truths_ne_nil given)
  | cons first rest =>
    have data : call.operands.map
        (fun operand => Datum.value (.int (if db.truth call.toSite operand then 1 else 0))) =
        ((first :: rest).map fun b => if b then (1 : Int) else 0).map
          fun n => .value (.int n) := by
      rw [← truths, List.map_map, List.map_map]
      rfl
    rw [data, List.map_cons] at each
    have sum := answers_sequence each fun _ => binary_add
    rw [foldl_ones_cons] at sum
    refine ⟨_, ?_, answers_isOdd sum⟩
    rw [Call.xor, compiled]
    rfl

theorem answers_not (suits : db.Suits call) (single : call.args.length = 1) :
    ∃ e, call.not = .ok e ∧
      e.Answers db .empty (.value (.ofBool db.dialect
        (call.operands.map (db.truth call.toSite) == [false]))) := by
  obtain ⟨sql, only⟩ := List.length_eq_one_iff.1 single
  have operands : call.operands = [call.operand 0] := by
    rw [Call.operands, Call.operand, Call.sqlAt, only]
    rfl
  have member : call.operand 0 ∈ call.operands := by
    rw [operands]
    exact List.mem_cons_self
  obtain ⟨e, found, value⟩ := answers_toBool call.toSite suits.dialect (suits.holds member)
  refine ⟨e.not, ?_, ?_⟩
  · rw [Call.not, Call.truth, found]
    rfl
  · have opposite := Expr.Answers.not value
      (Value.holds?_ofTruth db.dialect (some (db.truth call.toSite (call.operand 0))))
    have same : (call.operands.map (db.truth call.toSite) == [false]) =
        !db.truth call.toSite (call.operand 0) := by
      rw [operands]
      cases truth : db.truth call.toSite (call.operand 0) <;> simp [truth]
    rw [same]
    exact opposite

theorem compile_combination (combines : call.operation.combine? = some combine) :
    1 ≤ call.operation.arity.least ∧
      (call.compile = call.logical .and ∧ combine = (fun truths => truths.all id) ∨
        call.compile = call.logical .or ∧ combine = (fun truths => truths.any id) ∨
        call.compile = call.xor ∧ combine = (fun truths => truths.count true % 2 == 1) ∨
        call.compile = call.not ∧ combine = (fun truths => truths == [false]) ∧
          call.operation = .not) := by
  unfold Call.compile Call.own? Call.shared
  cases operation : call.operation with
  | and | logicalAnd =>
    rw [operation] at combines
    cases combines
    exact ⟨by decide, .inl ⟨rfl, rfl⟩⟩
  | or | logicalOr =>
    rw [operation] at combines
    cases combines
    exact ⟨by decide, .inr (.inl ⟨rfl, rfl⟩)⟩
  | xor =>
    rw [operation] at combines
    cases combines
    exact ⟨by decide, .inr (.inr (.inl ⟨rfl, rfl⟩))⟩
  | not =>
    rw [operation] at combines
    cases combines
    exact ⟨by decide, .inr (.inr (.inr ⟨rfl, rfl, rfl⟩))⟩
  | _ =>
    rw [operation] at combines
    cases combines

theorem answers_combination (suits : db.Suits call)
    (combines : call.operation.combine? = some combine)
    (checked : Target.check call.operation call.args call.hints = .ok ()) :
    ∃ e, call.compile = .ok e ∧
      e.Answers db .empty
        (.value (.ofBool db.dialect (combine (call.operands.map (db.truth call.toSite))))) := by
  have accepted := accepts_of_check checked
  obtain ⟨some, cases⟩ := compile_combination combines
  have given : call.args ≠ [] := by
    intro none
    have enough := of_decide_eq_true (Bool.and_eq_true_iff.1 accepted).1
    rw [none, List.length_nil] at enough
    omega
  rcases cases with ⟨compiles, rfl⟩ | ⟨compiles, rfl⟩ | ⟨compiles, rfl⟩ | ⟨compiles, rfl, operation⟩
  · obtain ⟨e, first, rest, compiled, truths, value⟩ := answers_logical suits given binary_allTrue
    rw [foldl_and] at value
    exact ⟨e, compiles.trans compiled, by rwa [truths]⟩
  · obtain ⟨e, first, rest, compiled, truths, value⟩ := answers_logical suits given binary_anyTrue
    rw [foldl_or] at value
    exact ⟨e, compiles.trans compiled, by rwa [truths]⟩
  · obtain ⟨e, compiled, value⟩ := answers_xor suits given
    exact ⟨e, compiles.trans compiled, value⟩
  · rw [operation] at accepted
    have single : call.args.length = 1 := by
      obtain ⟨least, most⟩ := Bool.and_eq_true_iff.1 accepted
      exact Nat.le_antisymm (of_decide_eq_true most) (of_decide_eq_true least)
    obtain ⟨e, compiled, value⟩ := answers_not suits single
    exact ⟨e, compiles.trans compiled, value⟩

/--
Truth has two values. Whatever a row holds, an operand of any kind is true or false and never null
on each target, and the operations on truth values combine these as they should.
-/
theorem truth_is_two_valued (db : Database) :
    (∀ (site : Site) (operand : Operand), db.dialect = site.target.dialect → db.Holds operand →
      ∃ e, site.toBool operand = .ok e ∧
        e.Answers db .empty (.value (.ofBool db.dialect (db.truth site operand)))) ∧
    ∀ (call : Call) (name : String) (combine : List Bool → Bool), db.Suits call →
      Operation.ofName? name = some call.operation → call.operation.combine? = some combine →
      Target.check call.operation call.args call.hints = .ok () →
      ∃ e : Expr,
        call.target.render call.job name call.args call.hints = .ok (e.print call.dialect) ∧
        e.Answers db .empty
          (.value (.ofBool db.dialect (combine (call.operands.map (db.truth call.toSite))))) := by
  refine ⟨fun site operand same held => answers_toBool site same held, ?_⟩
  intro call name combine suits named combines checked
  obtain ⟨e, compiled, value⟩ := answers_combination suits combines checked
  refine ⟨e, ?_, value⟩
  rw [Target.render, named]
  exact renderOperation_of_compile checked compiled

end

noncomputable def Database.plain (row : Row) : Database where
  toEngine := .ofRow row fun cs =>
    if cs = "[null]".toList then some (.array [.null]) else some .null
  lower := id
  typeOf := fun _ => "integer".toList
  wall := fun moment _ => moment
  toChar := fun time _ => time
  strftime := fun _ _ => none
  write := fun _ => "null".toList
  wrap := fun _ => "[null]".toList
  write_json := fun _ => rfl
  wrap_json := fun _ => ⟨.null, rfl⟩

def oddCall : Call :=
  { job := .ofCatalog
      (.ofFields [.ofStorage "fld1" "paid" .boolean, .ofStorage "fld2" "note" .text]) ⟨0, 0⟩
    target := ⟨.postgres, .select⟩
    operation := .xor
    args := ["\"paid\"", "\"note\"", "\"count\"", "(true)", "NULL"]
    hints := [] }

def oddRow : Row where
  dialect := .postgres
  value := fun sql => if sql = "\"note\"" then .text [] else .null
  isInteger := fun _ => true
  shown := fun _ => []

theorem oddRow_suits : (Database.plain oddRow).Suits oddCall := by
  have known : ∀ operand ∈ oddCall.operands, operand.isLiteral = true ∨
      operand.sql = "\"paid\"" ∨ operand.sql = "\"count\"" ∨
      operand.sql = "\"note\"" ∧ operand.kind = .text := by decide
  refine ⟨rfl, fun operand member column => ?_⟩
  have null : ∀ {sql : String}, operand.sql = sql → oddRow.fragment sql = .null →
      (Database.plain oddRow).Holds operand := by
    rintro _ rfl value
    exact ⟨fun _ _ => .inl value, fun _ _ => .inl value, fun _ _ => .inl value⟩
  rcases known operand member with literal | sql | sql | ⟨sql, kind⟩
  · rw [literal] at column
    cases column
  · exact null sql rfl
  · exact null sql rfl
  · refine ⟨fun _ other => ?_, fun _ other => ?_, fun _ _ => .inr ⟨[], by rw [sql]; rfl⟩⟩
    · rw [kind] at other
      cases other
    · rw [kind] at other
      cases other

theorem truth_is_two_valued_odd :
    (Database.plain oddRow).Suits oddCall ∧
      Operation.ofName? "XOR" = some oddCall.operation ∧
      Target.check oddCall.operation oddCall.args oddCall.hints = .ok () ∧
      ∃ e : Expr,
        oddCall.target.render oddCall.job "XOR" oddCall.args oddCall.hints =
            .ok (e.print oddCall.dialect) ∧
          e.Answers (Database.plain oddRow) .empty
            (.value (.bool ((oddCall.operands.map
              ((Database.plain oddRow).truth oddCall.toSite)).count true % 2 == 1))) := by
  have named : Operation.ofName? "XOR" = some oddCall.operation := by decide
  have checked : Target.check oddCall.operation oddCall.args oddCall.hints = .ok () := rfl
  exact ⟨oddRow_suits, named, checked,
    (truth_is_two_valued (Database.plain oddRow)).2 oddCall "XOR" _ oddRow_suits named rfl checked⟩

end SheetSql
