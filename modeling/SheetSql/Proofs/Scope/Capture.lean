import SheetSql.Proofs.Outcome.Compile
import SheetSql.Proofs.Lexical.Render

namespace SheetSql

open Coerce Sql Text

/-! Columns that an argument names and `json_each` has too. -/

/-- An argument that names a column by itself and is read as a column of `json_each`. -/
def Expr.Captures (e : Expr) (sql : String) : Prop :=
  ∃ name ∈ eachColumns, reference? sql = some ⟨none, name⟩ ∧ e.exposes (· == sql) false = true

/-- The same texts, in queries that keep them apart from the columns of `json_each`. -/
def Likeness.tidy : Likeness where
  texts sql sql' := sql = sql'
  queries := True
  admits := Select.IsTidy
  admits_of_isTidy := id
  bare_eq := by
    intro sql sql' same
    rw [same]
  null := rfl

section

variable {p : String → Bool}

/-- A tidy query hides its fragments in its own scope if it does in the scope around it. -/
theorem Select.IsTidy.here {query : Select} (tidy : query.IsTidy)
    (columns : columnsExpose p false query.columns = false)
    (filter : optionExposes p false query.filter = false)
    (order : anyExposes p false query.order = false) :
    columnsExpose p (readsEach query.source query.join) query.columns = false ∧
      optionExposes p (readsEach query.source query.join) query.filter = false ∧
      anyExposes p (readsEach query.source query.join) query.order = false := by
  cases reads : readsEach query.source query.join with
  | false => exact ⟨columns, filter, order⟩
  | true => exact tidy reads p

mutual

theorem Expr.Alike.exposes_eq_false : Expr.Alike .tidy e e' → e.exposes p false = false
  | .null | .bool _ | .number _ | .text _ | .typed _ _ | .column _ _ => by rw [Expr.exposes]
  | .fragment _ => by rw [Expr.exposes, Bool.false_and]
  | .call _ each | .chain _ each => by rw [Expr.exposes, each.anyExposes_eq_false]
  | .aggregate _ _ each keys => by
    rw [Expr.exposes, each.anyExposes_eq_false, keys.anyExposes_eq_false]
    rfl
  | .window _ _ each parts keys => by
    rw [Expr.exposes, each.anyExposes_eq_false, parts.anyExposes_eq_false,
      keys.anyExposes_eq_false]
    rfl
  | .member _ inner each => by
    rw [Expr.exposes, inner.exposes_eq_false, each.anyExposes_eq_false]
    rfl
  | .unary _ inner | .nullTest _ inner | .cast _ inner | .extract _ inner => by
    rw [Expr.exposes, inner.exposes_eq_false]
  | .binary _ one other | .atTimeZone one other | .subscript one other => by
    rw [Expr.exposes, one.exposes_eq_false, other.exposes_eq_false]
    rfl
  | .case inner each last => by
    rw [Expr.exposes, inner.optionExposes_eq_false, each.branchesExpose_eq_false,
      last.optionExposes_eq_false]
    rfl
  | .slice inner first last => by
    rw [Expr.exposes, inner.exposes_eq_false, first.optionExposes_eq_false,
      last.optionExposes_eq_false]
    rfl
  | .subquery _ inner => by rw [Expr.exposes, inner.exposes_eq_false]

theorem AllAlike.anyExposes_eq_false : AllAlike .tidy list list' → anyExposes p false list = false
  | .nil => by rw [anyExposes]
  | .cons head tail => by
    rw [anyExposes, head.exposes_eq_false, tail.anyExposes_eq_false]
    rfl

theorem MaybeAlike.optionExposes_eq_false :
    MaybeAlike .tidy e? e?' → optionExposes p false e? = false
  | .none => by rw [optionExposes]
  | .some inner => by rw [optionExposes, inner.exposes_eq_false]

theorem BranchesAlike.branchesExpose_eq_false :
    BranchesAlike .tidy branches branches' → branchesExpose p false branches = false
  | .nil => by rw [branchesExpose]
  | .cons test result tail => by
    rw [branchesExpose, test.exposes_eq_false, result.exposes_eq_false,
      tail.branchesExpose_eq_false]
    rfl

theorem ProjectionsAlike.columnsExpose_eq_false :
    ProjectionsAlike .tidy columns columns' → columnsExpose p false columns = false
  | .nil => by rw [columnsExpose]
  | .cons _ head tail => by
    rw [columnsExpose, head.exposes_eq_false, tail.columnsExpose_eq_false]
    rfl

theorem Select.Alike.exposes_eq_false :
    Select.Alike .tidy query query' → query.exposes p false = false
  | .mk tidy common list origin more test keys => by
    rw [Select.exposes, common.recursionExposes_eq_false, origin.sourceExposes_eq_false,
      more.sourceExposes_eq_false]
    obtain ⟨columns, filter, order⟩ := tidy.here list.columnsExpose_eq_false
      test.optionExposes_eq_false keys.anyExposes_eq_false
    simp only [Bool.false_or, columns, filter, order]

theorem RecursionAlike.recursionExposes_eq_false :
    RecursionAlike .tidy recursion recursion' → recursionExposes p false recursion = false
  | .none => by rw [recursionExposes]
  | .some _ _ first next => by
    rw [recursionExposes, first.exposes_eq_false, next.exposes_eq_false]
    rfl

theorem SourceAlike.sourceExposes_eq_false :
    SourceAlike .tidy source source' → sourceExposes p false source = false
  | .none | .table _ => by rw [sourceExposes]
  | .function _ _ _ rows => by rw [sourceExposes, rows.exposes_eq_false]
  | .union _ _ each => by rw [sourceExposes, each.queriesExpose_eq_false]

theorem SelectsAlike.queriesExpose_eq_false :
    SelectsAlike .tidy queries queries' → queriesExpose p false queries = false
  | .nil => by rw [queriesExpose]
  | .cons head tail => by
    rw [queriesExpose, head.exposes_eq_false, tail.queriesExpose_eq_false]
    rfl

end

end

theorem Call.exposes_eq_false_of_not_mixes {call : Call} (apart : call.mixes = false)
    (found : call.compile = .ok e) (p : String → Bool) : e.exposes p false = false := by
  have operands : List.Forall₂ (Operand.Alike .tidy) call.operands call.operands :=
    operands_self fun _ _ => rfl
  have agree := compile_alike rfl operands (fun _ => trivial) fun mixed => by
    rw [apart] at mixed
    cases mixed
  rw [found] at agree
  cases agree with
  | ok alike => exact alike.exposes_eq_false

theorem literalKind?_of_reference (column : reference? sql = some reference) :
    literalKind? sql = none := by
  have quoted : ∃ q rest, bare sql.toList = q :: rest ∧ (q = doubleQuote ∨ q = backQuote) := by
    unfold reference? readName at column
    cases text : bare sql.toList with
    | nil =>
      rw [text] at column
      cases column
    | cons q rest =>
      refine ⟨q, rest, rfl, ?_⟩
      by_contra other
      rw [text] at column
      dsimp only at column
      rw [if_neg other] at column
      cases column
  obtain ⟨q, rest, text, quote⟩ := quoted
  unfold literalKind? isNullLiteral numberLiteral? textLiteral? boolLiteral?
  rw [text]
  rcases quote with rfl | rfl
  · rfl
  · rfl

theorem classify_of_reference (job : Job) (column : reference? sql = some reference)
    (hint : Option Hint) :
    (Operand.classify job sql hint).isLiteral = false ∧
      (Operand.classify job sql hint).isBlank = false := by
  unfold Operand.classify
  rw [literalKind?_of_reference column]
  dsimp only
  split
  · exact ⟨rfl, beq_eq_false_iff_ne.2 (Facts.kind_ne_blank _)⟩
  · split
    · exact ⟨rfl, beq_eq_false_iff_ne.2 (Facts.kind_ne_blank _)⟩
    · exact ⟨rfl, beq_eq_false_iff_ne.2 (Facts.kind_ne_blank _)⟩

section

variable {p : String → Bool}

@[simp] theorem readsEach_each (e : Expr) (join : Option Source) :
    readsEach (some (each e)) join = true := rfl

@[simp] theorem sourceExposes_none (inside : Bool) : sourceExposes p inside none = false := by
  rw [sourceExposes]

@[simp] theorem sourceExposes_union (inside : Bool) (queries : List Select) (label : String)
    (columns : List String) :
    sourceExposes p inside (some (.union queries label columns)) =
      queriesExpose p inside queries := by
  rw [sourceExposes]

@[simp] theorem sourceExposes_each (inside : Bool) (e : Expr) :
    sourceExposes p inside (some (each e)) = e.exposes p inside := by
  simp [each, Source.rows, sourceExposes, asJson, jsonValid, Expr.caseWhen, Expr.exposes,
    anyExposes, optionExposes, branchesExpose]

/-- The separator stands among the columns of the elements, the cell itself does not. -/
theorem exposes_jsonJoin (inside : Bool) (separator e : Expr) :
    (jsonJoin .sqlite separator e).exposes p inside =
      (e.exposes p inside || separator.exposes p true) := by
  simp [jsonJoin, Select.value, Select.of, Expr.exposes, Select.exposes, anyExposes,
    optionExposes, branchesExpose, columnsExpose, recursionExposes, jsonExtract, eachColumn,
    Expr.caseOf, Expr.coalesce, Expr.ne]

variable {site : Site} (target : site.target = ⟨.sqlite, .select⟩) {operand : Operand} {e : Expr}

include target

theorem exposes_toText (found : site.toText operand = .ok e) :
    e.exposes p true = (p operand.sql && !(operand.kind == .number && operand.isLiteral)) := by
  unfold Site.toText at found
  rw [target] at found
  cases known : operand.kind with
  | json =>
    rw [known] at found
    cases found
    rw [exposes_jsonJoin]
    simp [Operand.expr, Expr.exposes]
  | number =>
    rw [known] at found
    dsimp only at found
    split at found
    · next literal =>
        cases found
        simp [literal, Expr.exposes]
    · next other =>
        cases found
        simp [other, numberText, Operand.expr, Expr.eq, Expr.caseWhen, Expr.exposes,
          optionExposes, branchesExpose]
  | boolean =>
    rw [known] at found
    cases found
    simp +decide [Operand.expr, Expr.not, Expr.caseWhen, Expr.exposes, optionExposes, branchesExpose]
  | datetime =>
    rw [known] at found
    cases found
    simp +decide [datetimeText, normalDatetime, Operand.expr, Expr.exposes, anyExposes]
  | blank | text | unknown =>
    rw [known] at found
    cases found
    simp +decide [Operand.expr, Expr.exposes]

theorem exposes_toTextOrEmpty (found : site.toTextOrEmpty operand = .ok e) :
    e.exposes p true = (p operand.sql && !operand.isBlank &&
      !(operand.kind == .number && operand.isLiteral)) := by
  unfold Site.toTextOrEmpty at found
  split at found
  · next blank =>
      cases found
      simp [blank, Expr.exposes]
  · next filled =>
      obtain ⟨text, some, found⟩ := bind_eq_ok found
      cases found
      simp [filled, Expr.orElse, Expr.coalesce, Expr.exposes, anyExposes,
        exposes_toText target some]

end

section

open Elements

variable {p : String → Bool}

/-- The test that an argument is not null stands among the columns of its elements. -/
theorem exposes_memberSqlite (mode : ArrayMode) (i : Nat) {operand : Expr} (json : Expr)
    (exposed : operand.exposes p true = true) :
    (memberSqlite mode i operand json).exposes p false = true := by
  cases mode with
  | unique | flatten | compact =>
    simp [memberSqlite, Select.of, Select.exposes, optionExposes, Expr.isNotNull, Expr.and,
      Expr.exposes, exposed]

theorem exposes_collected (mode : ArrayMode) (label : String) (columns : List String)
    (exposed : queriesExpose p false queries = true) :
    (collected .sqlite mode (.union queries label columns)).exposes p false = true := by
  cases mode with
  | unique | flatten | compact =>
    simp [collected, keptRows, ranked, Select.of, Select.value, Expr.exposes, Select.exposes,
      queriesExpose, exposed]

theorem queriesExpose_of_mem (member : query ∈ queries) (exposed : query.exposes p false = true) :
    queriesExpose p false queries = true := by
  induction member with
  | head => rw [queriesExpose, exposed, Bool.true_or]
  | tail _ _ ih => rw [queriesExpose, ih, Bool.or_true]

end

theorem mem_of_mapM {ε α β : Type} {f : α → Except ε β} {as : List α} {bs : List β}
    (found : as.mapM f = .ok bs) {a : α} (member : a ∈ as) : ∃ b ∈ bs, f a = .ok b := by
  induction as generalizing bs with
  | nil => cases member
  | cons first rest ih =>
    rw [List.mapM_cons] at found
    obtain ⟨b, one, found⟩ := bind_eq_ok found
    obtain ⟨more, each, found⟩ := bind_eq_ok found
    cases found
    cases member with
    | head => exact ⟨b, List.mem_cons_self, one⟩
    | tail _ later =>
      obtain ⟨other, among, result⟩ := ih each later
      exact ⟨other, List.mem_cons_of_mem _ among, result⟩

namespace Call

variable {call : Call} (target : call.target = ⟨.sqlite, .select⟩) {e : Expr} {sql : String}
  {reference : Reference} (column : reference? sql = some reference)

include target column

theorem exposes_arrayOf {mode : ArrayMode} (found : call.arrayOf mode = .ok e)
    (given : sql ∈ call.args) : e.exposes (· == sql) false = true := by
  obtain ⟨_, _, found⟩ := bind_eq_ok found
  obtain ⟨members, each, found⟩ := bind_eq_ok found
  obtain ⟨i, bound, rfl⟩ := List.getElem_of_mem given
  have numbered : (i, Operand.classify call.job call.args[i] call.hints[i]?) ∈
      call.operands.mapIdx fun i operand => (i, operand) := by
    rw [List.mem_mapIdx, operands]
    exact ⟨i, by simpa using bound, by simp⟩
  obtain ⟨member, among, made⟩ := mem_of_mapM each numbered
  have filled := (classify_of_reference call.job column call.hints[i]?).2
  dsimp only [Elements.member?] at made
  rw [filled, target] at made
  obtain ⟨json, _, made⟩ := bind_eq_ok made
  cases made
  have chosen : Elements.memberSqlite mode i
      (Operand.classify call.job call.args[i] call.hints[i]?).expr json ∈ members.filterMap id :=
    List.mem_filterMap.2 ⟨_, among, rfl⟩
  have exposed := queriesExpose_of_mem (p := (· == call.args[i])) chosen
    (exposes_memberSqlite mode i json
      (by simp [Operand.expr, Operand.classify_sql, Expr.exposes]))
  cases kept : members.filterMap id with
  | nil =>
    rw [kept] at chosen
    cases chosen
  | cons first rest =>
    rw [kept] at found exposed
    rw [dialect, target] at found
    cases found
    exact exposes_collected mode _ _ exposed

theorem exposes_arrayJoin_iff (json : (call.operand 0).kind = .json)
    (found : call.arrayJoin = .ok e) :
    e.exposes (· == sql) false = true ↔ call.args[1]? = some sql := by
  unfold arrayJoin at found
  dsimp only at found
  rw [json] at found
  split at found
  · next two =>
      obtain ⟨separator, between, found⟩ := bind_eq_ok found
      obtain ⟨_, _, found⟩ := bind_eq_ok found
      cases found
      have second : call.args[1]? = some (call.sqlAt 1) := by
        have bound : 1 < call.args.length := of_decide_eq_true two
        rw [sqlAt, List.getElem?_eq_getElem bound, Option.getD_some]
      have text : (call.operand 1).sql = call.sqlAt 1 := Operand.classify_sql _ _ _
      rw [dialect, target, exposes_jsonJoin, exposes_toTextOrEmpty target between, second,
        Option.some_inj, text]
      constructor
      · intro exposed
        simp only [Operand.expr, Expr.exposes, Bool.false_and, Bool.false_or,
          Bool.and_eq_true] at exposed
        exact eq_of_beq exposed.1.1
      · intro same
        subst same
        obtain ⟨plain, filled⟩ := classify_of_reference call.job column call.hints[1]?
        rw [show (call.operand 1).isLiteral = false from plain,
          show (call.operand 1).isBlank = false from filled]
        simp
  · next one =>
      obtain ⟨separator, between, found⟩ := bind_eq_ok found
      cases between
      obtain ⟨_, _, found⟩ := bind_eq_ok found
      cases found
      have missing : call.args[1]? = none := by
        rw [List.getElem?_eq_none_iff]
        have bound : ¬1 < call.args.length := fun two => one (decide_eq_true two)
        omega
      rw [dialect, target, exposes_jsonJoin, missing]
      simp [Operand.expr, Expr.exposes]

theorem exposes_iff (found : call.compile = .ok e) (given : sql ∈ call.args) :
    e.exposes (· == sql) false = true ↔
      call.operation ∈ [.arrayUnique, .arrayFlatten, .arrayCompact] ∨
        call.operation = .arrayJoin ∧ (call.operand 0).kind = .json ∧
          call.args[1]? = some sql := by
  cases named : call.operation with
  | arrayUnique | arrayFlatten | arrayCompact =>
    simp only [compile, own?, named] at found
    simp [exposes_arrayOf target column found given]
  | arrayJoin =>
    by_cases json : (call.operand 0).kind = .json
    · simp only [compile, own?, shared, named] at found
      simp [json, exposes_arrayJoin_iff target column json found]
    · have apart : call.mixes = false := by simp [mixes, named, json]
      simp [json, exposes_eq_false_of_not_mixes apart found]
  | _ =>
    have apart : call.mixes = false := by rw [mixes, named]
    simp [exposes_eq_false_of_not_mixes apart found]

end Call

/--
On SQLite an argument is captured exactly if it has the name of a column of `json_each` and is one
of several arrays, or stands between the elements of one.
-/
theorem captures_iff {call : Call} (target : call.target = ⟨.sqlite, .select⟩) {e : Expr}
    (found : call.compile = .ok e) {sql : String} (given : sql ∈ call.args) :
    e.Captures sql ↔
      (∃ name ∈ eachColumns, reference? sql = some ⟨none, name⟩) ∧
        (call.operation ∈ [.arrayUnique, .arrayFlatten, .arrayCompact] ∨
          call.operation = .arrayJoin ∧ (call.operand 0).kind = .json ∧
            call.args[1]? = some sql) := by
  constructor
  · intro captured
    obtain ⟨name, known, column, exposed⟩ := captured
    exact ⟨⟨name, known, column⟩, (Call.exposes_iff target column found given).1 exposed⟩
  · intro condition
    obtain ⟨⟨name, known, column⟩, mixed⟩ := condition
    exact ⟨name, known, column, (Call.exposes_iff target column found given).2 mixed⟩

def labelsJoined : Call :=
  { job := .ofCatalog (.ofFields [.ofStorage "f" "labels" .json]) ⟨0, 0⟩
    target := ⟨.sqlite, .select⟩
    operation := .arrayJoin
    args := ["\"labels\"", "\"value\""]
    hints := [] }

def labelsJoinedSql : Expr :=
  jsonJoin .sqlite (Expr.orElse ((Expr.fragment "\"value\"").cast .text) (.text ""))
    (.fragment "\"labels\"")

theorem captures_iff_labels :
    labelsJoined.target = ⟨.sqlite, .select⟩ ∧ labelsJoined.compile = .ok labelsJoinedSql ∧
      "\"value\"" ∈ labelsJoined.args ∧
      (labelsJoinedSql.Captures "\"value\"" ↔
        (∃ name ∈ eachColumns, reference? "\"value\"" = some ⟨none, name⟩) ∧
          (labelsJoined.operation ∈ [.arrayUnique, .arrayFlatten, .arrayCompact] ∨
            labelsJoined.operation = .arrayJoin ∧ (labelsJoined.operand 0).kind = .json ∧
              labelsJoined.args[1]? = some "\"value\"")) := by
  have found : labelsJoined.compile = .ok labelsJoinedSql := by rfl
  have given : "\"value\"" ∈ labelsJoined.args := by decide
  exact ⟨rfl, found, given, captures_iff rfl found given⟩

/-- The text between the labels is that of each label. -/
theorem separator_captured :
    labelsJoined.compile = .ok labelsJoinedSql ∧ "\"value\"" ∈ labelsJoined.args ∧
      labelsJoinedSql.Captures "\"value\"" :=
  ⟨by rfl, by decide, "value", by decide, by rfl, by rfl⟩

end SheetSql
