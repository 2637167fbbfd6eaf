import SheetSql.Proofs.Query.Database

namespace SheetSql

/-!
The value of an expression for any values of a row, with queries over the elements of JSON values.
-/

open Database

mutual

noncomputable def Expr.answer (db : Database) (scope : Scope) : Expr → Option Datum
  | .null => some (.value .null)
  | .bool b => some (.value (.ofBool db.dialect b))
  | .number digits =>
    (Decimal.read? digits.toList).map fun decimal => .value (.ofWritten digits.toList decimal)
  | .text content => some (.value (.text content.toList))
  | .column qualifier name => scope qualifier name
  | .fragment sql => some (.value (db.fragment sql))
  | .call function args =>
    if function = "COALESCE" then answerFirst db scope args
    else if function = "pg_typeof" then answerType db args
    else (answerEach db scope args).bind (db.apply function)
  | .binary left op right => do
      db.binary op (left.isInteger db.toRow && right.isInteger db.toRow)
        (← left.answer db scope) (← right.answer db scope)
  | .chain op items =>
    (answerEach db scope items).bind (db.chain op (areIntegers db.toRow items))
  | .unary op operand => (operand.answer db scope).bind (db.unary op)
  | .nullTest operand negated =>
    (operand.answer db scope).map fun datum =>
      .value (.ofBool db.dialect (datum.isNull != negated))
  | .member operand list negated => do
      let value ← (← operand.answer db scope).scalar?
      let found ← value.among? (← (← answerEach db scope list).mapM Datum.scalar?)
      return .value (.ofTruth db.dialect (if negated then found.map (!·) else found))
  | .cast operand type => (operand.answer db scope).bind (db.cast type)
  | .case none branches otherwise =>
    answerBranches db scope (answerOptional db scope otherwise) branches
  | .case (some subject) branches otherwise => do
      let value ← (← subject.answer db scope).scalar?
      answerBranchesOf db scope value (answerOptional db scope otherwise) branches
  | .atTimeZone operand zone => do
      db.atTimeZone (← operand.answer db scope) (← zone.answer db scope)
  | .subquery query => query.answer db scope
  | _ => none

noncomputable def answerEach (db : Database) (scope : Scope) : List Expr → Option (List Datum)
  | [] => some []
  | e :: rest => do return (← e.answer db scope) :: (← answerEach db scope rest)

noncomputable def answerFirst (db : Database) (scope : Scope) : List Expr → Option Datum
  | [] => some (.value .null)
  | e :: rest => do
      let datum ← e.answer db scope
      if datum.isNull then answerFirst db scope rest else return datum

noncomputable def answerType (db : Database) : List Expr → Option Datum
  | [.fragment sql] => some (.value (.other (db.typeOf sql)))
  | _ => none

noncomputable def answerOptional (db : Database) (scope : Scope) : Option Expr → Option Datum
  | none => some (.value .null)
  | some e => e.answer db scope

noncomputable def answerBranches (db : Database) (scope : Scope) (default : Option Datum) :
    List Branch → Option Datum
  | [] => default
  | ⟨condition, value⟩ :: rest => do
      let holds ← (← (← condition.answer db scope).scalar?).holds? db.dialect
      if holds = some true then value.answer db scope
      else answerBranches db scope default rest

noncomputable def answerBranchesOf (db : Database) (scope : Scope) (subject : Value)
    (default : Option Datum) : List Branch → Option Datum
  | [] => default
  | ⟨condition, value⟩ :: rest => do
      let holds ← subject.same? db.dialect (← (← condition.answer db scope).scalar?)
      if holds = some true then value.answer db scope
      else answerBranchesOf db scope subject default rest

noncomputable def answerFilter (db : Database) (scope : Scope) : Option Expr → Option Bool
  | none => some true
  | some e => do
      return (← (← (← e.answer db scope).scalar?).holds? db.dialect) = some true

noncomputable def answerColumn (db : Database) (rows : List Scope) : Expr → Option Datum
  | .call function args => do
      let each ← rows.mapM fun row => do (← answerEach db row args).mapM Datum.scalar?
      (db.aggregate function each).map .value
  | .aggregate function args [key] => do
      let each ← rows.mapM fun row => do
        let order ← (← key.answer db row).int?
        return (order, ← (← answerEach db row args).mapM Datum.scalar?)
      (db.aggregate function (sorted each)).map .value
  | _ => none

noncomputable def Select.answer (db : Database) (scope : Scope) : Select → Option Datum
  | ⟨none, [⟨column, _⟩], some (.function (.call function [arg]) ordinality label names), none,
      filter, []⟩ => do
      let items ← db.rowsOf function (← arg.answer db scope)
      let kept ← keep? (fun row => answerFilter db row filter)
        (items.mapIdx (db.rowScope function label names ordinality))
      answerColumn db kept column
  | _ => none

end

theorem Datum.eq_null_of_isNull {datum : Datum} (null : datum.isNull = true) :
    datum = .value .null := by
  cases datum with
  | value scalar => exact congrArg Datum.value (of_decide_eq_true null)
  | _ => cases null

theorem Value.holds?_ofTruth (dialect : Dialect) (truth : Option Bool) :
    (Value.ofTruth dialect truth).holds? dialect = some truth := by
  cases truth with
  | none => rfl
  | some b => cases dialect <;> cases b <;> rfl

theorem Value.ofTruth_inj (same : Value.ofTruth dialect a = .ofTruth dialect b) : a = b := by
  have counts := congrArg (Value.holds? dialect) same
  rw [holds?_ofTruth, holds?_ofTruth] at counts
  exact Option.some.inj counts

section

variable {db : Database} {scope : Scope}

-- The equations of the evaluation, with which the rules below open.
attribute [local simp] Expr.answer answerEach answerFirst answerType answerOptional answerBranches
  answerBranchesOf answerFilter answerColumn Select.answer

theorem binary_value_regexMatch (areIntegers : Bool) (a b : Value) :
    db.binary .regexMatch areIntegers (.value a) (.value b) =
      ((a.regexMatch? b).map (Value.ofTruth db.dialect)).map .value := rfl

theorem binary_value_glob (areIntegers : Bool) (a b : Value) :
    db.binary .glob areIntegers (.value a) (.value b) =
      ((a.globMatch? b).map (Value.ofTruth db.dialect)).map .value := rfl

theorem binary_and (areIntegers : Bool) (a b : Option Bool) :
    db.binary .and areIntegers (.value (.ofTruth db.dialect a)) (.value (.ofTruth db.dialect b)) =
      some (.value (.ofTruth db.dialect (Value.andTruth a b))) := by
  rw [Database.binary, Database.binaryValue, Value.holds?_ofTruth, Value.holds?_ofTruth]
  rfl

theorem binary_or (areIntegers : Bool) (a b : Option Bool) :
    db.binary .or areIntegers (.value (.ofTruth db.dialect a)) (.value (.ofTruth db.dialect b)) =
      some (.value (.ofTruth db.dialect (Value.orTruth a b))) := by
  rw [Database.binary, Database.binaryValue, Value.holds?_ofTruth, Value.holds?_ofTruth]
  rfl

theorem chain_eq {α : Type} {op : BinOp} {areIntegers : Bool} {shown : α → Datum} {f : α → α → α}
    (step : ∀ a b, db.binary op areIntegers (shown a) (shown b) = some (shown (f a b))) (first : α)
    (rest : List α) :
    db.chain op areIntegers ((first :: rest).map shown) = some (shown (rest.foldl f first)) := by
  rw [List.map_cons, Database.chain]
  induction rest generalizing first with
  | nil => rfl
  | cons next rest ih =>
    rw [List.map_cons, List.foldlM_cons, step]
    exact ih (f first next)

def Expr.Answers (db : Database) (scope : Scope) (e : Expr) (datum : Datum) : Prop :=
  e.answer db scope = some datum

theorem answerEach_of_forall₂ (each : List.Forall₂ (Expr.Answers db scope) args data) :
    answerEach db scope args = some data := by
  induction each with
  | nil => rw [answerEach]
  | cons first _ ih =>
    rw [answerEach, first, ih]
    rfl

theorem answerBranches_cons {condition : Expr} {default : Option Datum}
    (holds : condition.Answers db scope (.value v)) (counts : v.holds? db.dialect = some truth) :
    answerBranches db scope default (⟨condition, value⟩ :: rest) =
      if truth = some true then value.answer db scope
      else answerBranches db scope default rest := by
  rw [answerBranches, holds]
  change (do
    let holds ← v.holds? db.dialect
    if holds = some true then value.answer db scope
    else answerBranches db scope default rest) = _
  rw [counts]
  rfl

theorem answerBranchesOf_cons {subject : Value} {condition : Expr} {default : Option Datum}
    (item : condition.Answers db scope (.value v))
    (compared : subject.same? db.dialect v = some truth) :
    answerBranchesOf db scope subject default (⟨condition, value⟩ :: rest) =
      if truth = some true then value.answer db scope
      else answerBranchesOf db scope subject default rest := by
  rw [answerBranchesOf, item]
  change (do
    let holds ← subject.same? db.dialect v
    if holds = some true then value.answer db scope
    else answerBranchesOf db scope subject default rest) = _
  rw [compared]
  rfl

theorem answerFilter_some {e : Expr} (holds : e.Answers db scope (.value v))
    (counts : v.holds? db.dialect = some truth) :
    answerFilter db scope (some e) = some (decide (truth = some true)) := by
  rw [answerFilter, holds]
  change (do return decide ((← v.holds? db.dialect) = some true)) = _
  rw [counts]
  rfl

namespace Expr.Answers

theorem null : Answers db scope .null (.value .null) := by rw [Answers, answer]

theorem bool (b : Bool) : Answers db scope (.bool b) (.value (.ofBool db.dialect b)) := by
  rw [Answers, answer]

theorem text (content : String) :
    Answers db scope (.text content) (.value (.text content.toList)) := by
  rw [Answers, answer]

theorem number {digits : String} {decimal : Decimal}
    (read : Decimal.read? digits.toList = some decimal) :
    Answers db scope (.number digits) (.value (.ofWritten digits.toList decimal)) := by
  rw [Answers, answer, read]
  rfl

theorem fragment (sql : String) :
    Answers db scope (.fragment sql) (.value (db.fragment sql)) := by
  rw [Answers, answer]

theorem column {qualifier : Option String} {name : String} {datum : Datum}
    (known : scope qualifier name = some datum) :
    Answers db scope (.column qualifier name) datum := by
  rw [Answers, answer, known]

theorem typeOf (sql : String) :
    Answers db scope (.call "pg_typeof" [.fragment sql]) (.value (.other (db.typeOf sql))) := by
  rw [Answers, answer, if_neg (by decide), if_pos rfl, answerType]

theorem call {function : String} {args : List Expr} {data : List Datum} {datum : Datum}
    (named : function ≠ "COALESCE" ∧ function ≠ "pg_typeof")
    (each : List.Forall₂ (Answers db scope) args data)
    (result : db.apply function data = some datum) :
    Answers db scope (.call function args) datum := by
  rw [Answers, answer, if_neg named.1, if_neg named.2, answerEach_of_forall₂ each]
  exact result

theorem coalesceNil : Answers db scope (Expr.coalesce []) (.value .null) := by
  rw [Answers, Expr.coalesce, answer, if_pos rfl, answerFirst]

theorem coalesce (value : Answers db scope e first)
    (others : first.isNull = true → Answers db scope (coalesce rest) datum)
    (found : first.isNull = false → first = datum) :
    Answers db scope (Expr.coalesce (e :: rest)) datum := by
  rw [Answers, Expr.coalesce, answer, if_pos rfl, answerFirst, value]
  change (if first.isNull = true then answerFirst db scope rest else some first) = _
  cases null : first.isNull with
  | true =>
    have more := others null
    rw [Answers, Expr.coalesce, answer, if_pos rfl] at more
    rw [if_pos rfl, more]
  | false => rw [if_neg Bool.false_ne_true, found null]

theorem orElse {default : Expr} (first : Answers db scope operand a)
    (second : Answers db scope default b) :
    Answers db scope (operand.orElse default) (if a.isNull then b else a) := by
  have last : Answers db scope (Expr.coalesce [default]) b := by
    refine .coalesce second (fun null => ?_) fun _ => rfl
    rw [Datum.eq_null_of_isNull null]
    exact coalesceNil
  refine .coalesce first (fun null => ?_) fun filled => ?_
  · rw [if_pos null]
    exact last
  · rw [filled, if_neg Bool.false_ne_true]

theorem binary (first : Answers db scope left a) (second : Answers db scope right b)
    (result : ∀ areIntegers, db.binary op areIntegers a b = some datum) :
    Answers db scope (.binary left op right) datum := by
  rw [Answers, answer, first, second]
  exact result _

theorem chain (each : List.Forall₂ (Answers db scope) items data)
    (result : ∀ areIntegers, db.chain op areIntegers data = some datum) :
    Answers db scope (.chain op items) datum := by
  rw [Answers, answer, answerEach_of_forall₂ each]
  exact result _

theorem not {operand : Expr} {v : Value} {truth : Option Bool}
    (value : Answers db scope operand (.value v)) (counts : v.holds? db.dialect = some truth) :
    Answers db scope operand.not (.value (.ofTruth db.dialect (truth.map (!·)))) := by
  rw [Answers, Expr.not, answer, value, Option.bind_some, Database.unary, counts]
  rfl

theorem and {left right : Expr} {a b : Option Bool}
    (first : Answers db scope left (.value (.ofTruth db.dialect a)))
    (second : Answers db scope right (.value (.ofTruth db.dialect b))) :
    Answers db scope (left.and right) (.value (.ofTruth db.dialect (Value.andTruth a b))) :=
  .binary first second fun areIntegers => binary_and areIntegers a b

theorem or {left right : Expr} {a b : Option Bool}
    (first : Answers db scope left (.value (.ofTruth db.dialect a)))
    (second : Answers db scope right (.value (.ofTruth db.dialect b))) :
    Answers db scope (left.or right) (.value (.ofTruth db.dialect (Value.orTruth a b))) :=
  .binary first second fun areIntegers => binary_or areIntegers a b

theorem nullTest (negated : Bool) (value : Answers db scope operand a) :
    Answers db scope (.nullTest operand negated)
      (.value (.ofBool db.dialect (a.isNull != negated))) := by
  rw [Answers, answer, value, Option.map_some]

theorem cast (value : Answers db scope operand a) (result : db.cast type a = some datum) :
    Answers db scope (operand.cast type) datum := by
  rw [Answers, answer, value]
  exact result

theorem member {operand : Expr} {list : List Expr} {v : Value} {items : List Value}
    {found : Option Bool} (negated : Bool) (value : Answers db scope operand (.value v))
    (each : List.Forall₂ (Answers db scope) list (items.map .value))
    (looked : v.among? items = some found) :
    Answers db scope (.member operand list negated)
      (.value (.ofTruth db.dialect (if negated then found.map (!·) else found))) := by
  rw [Answers, answer, value, answerEach_of_forall₂ each]
  change (do
    let items ← (items.map Datum.value).mapM Datum.scalar?
    let found ← v.among? items
    return Datum.value (.ofTruth db.dialect (if negated then found.map (!·) else found))) = _
  rw [Engine.mapM_scalar?]
  change (do
    let found ← v.among? items
    return Datum.value (.ofTruth db.dialect (if negated then found.map (!·) else found))) = _
  rw [looked]
  rfl

theorem texts (words : List String) :
    List.Forall₂ (Answers db scope) (words.map .text)
      ((words.map fun word => Value.text word.toList).map .value) := by
  induction words with
  | nil => exact .nil
  | cons word _ ih => exact .cons (text word) ih

theorem caseWhen
    (chosen : answerBranches db scope (answerOptional db scope otherwise) branches = some datum) :
    Answers db scope (.caseWhen branches otherwise) datum := by
  rw [Answers, Expr.caseWhen, answer, chosen]

theorem caseOf (value : Answers db scope subject (.value v))
    (chosen : answerBranchesOf db scope v (answerOptional db scope otherwise) branches =
      some datum) : Answers db scope (.caseOf subject branches otherwise) datum := by
  rw [Answers, Expr.caseOf, answer, value]
  exact chosen

theorem atTimeZone (first : Answers db scope operand a) (second : Answers db scope zone b)
    (result : db.atTimeZone a b = some datum) :
    Answers db scope (operand.atTimeZone zone) datum := by
  rw [Answers, answer, first, second]
  exact result

theorem subquery (source : Answers db scope arg datum)
    (rows : db.rowsOf function datum = some items)
    (filtered : keep? (fun row => answerFilter db row filter)
      (items.mapIdx (db.rowScope function label names ordinality)) = some kept)
    (column : answerColumn db kept value = some result) :
    Answers db scope
      (.subquery
        { Select.value value with
          source := some (.function (.call function [arg]) ordinality label names)
          filter := filter })
      result := by
  rw [Answers, answer, Select.value, Select.of, Select.answer, source]
  change ((db.rowsOf function datum).bind _) = _
  rw [rows]
  change ((keep? (fun row => answerFilter db row filter)
    (items.mapIdx (db.rowScope function label names ordinality))).bind _) = _
  rw [filtered]
  exact column

end Expr.Answers

end

theorem exists_keep {α : Type} {p : α → Option Bool} {list : List α}
    (each : ∀ a ∈ list, ∃ b, p a = some b) :
    ∃ kept, keep? p list = some kept ∧ ∀ a ∈ kept, a ∈ list ∧ p a = some true := by
  induction list with
  | nil => exact ⟨[], rfl, nofun⟩
  | cons first rest ih =>
    obtain ⟨b, found⟩ := each first List.mem_cons_self
    obtain ⟨kept, more, inside⟩ := ih fun a member => each a (List.mem_cons_of_mem _ member)
    have later : ∀ a ∈ kept, a ∈ first :: rest ∧ p a = some true := fun a member =>
      ⟨List.mem_cons_of_mem _ (inside a member).1, (inside a member).2⟩
    refine ⟨if b then first :: kept else kept, ?_, ?_⟩
    · rw [keep?, more, found]
      rfl
    · cases b with
      | false => exact later
      | true => exact List.forall_mem_cons.2 ⟨⟨List.mem_cons_self, found⟩, later⟩

theorem exists_mapM_some {α β : Type} {f : α → Option β} {good : β → Prop} {list : List α}
    (each : ∀ a ∈ list, ∃ b, f a = some b ∧ good b) :
    ∃ results, list.mapM f = some results ∧ ∀ b ∈ results, good b := by
  induction list with
  | nil => exact ⟨[], rfl, nofun⟩
  | cons first rest ih =>
    obtain ⟨b, found, fine⟩ := each first List.mem_cons_self
    obtain ⟨results, more, inside⟩ := ih fun a member => each a (List.mem_cons_of_mem _ member)
    refine ⟨b :: results, ?_, List.forall_mem_cons.2 ⟨fine, inside⟩⟩
    rw [List.mapM_cons, found, more]
    rfl

end SheetSql
