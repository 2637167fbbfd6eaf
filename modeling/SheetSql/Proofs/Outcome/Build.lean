import SheetSql.Proofs.Outcome.Rule
import SheetSql.Sql.Spelling

namespace SheetSql

/-! What the short ways to write expressions need in order to obey the rule of a target. -/

variable {t : Target} {stable : List String}

def isTimeless (function : String) : Bool :=
  !("now" :: "strftime" :: dateFunctions).contains (Text.lowered function)

def isFree (function : String) : Bool :=
  isTimeless function && Dialect.sqlite.fewest function == 0

def isPlain (function : String) : Bool :=
  isFree function && immutableFunctions.contains function

def isDated (function : String) : Bool :=
  Text.lowered function != "now" && Text.lowered function != "strftime" &&
    Dialect.sqlite.fewest function == 0

theorem readsClock_of_isTimeless (timeless : isTimeless function = true) (args : List Expr) :
    (Expr.call function args).readsClock = false := by
  rw [isTimeless, Bool.not_eq_true', List.contains_cons, List.contains_cons,
    Bool.or_eq_false_iff, Bool.or_eq_false_iff] at timeless
  obtain ⟨now, shown, dates⟩ := timeless
  rw [Expr.readsClock, now, shown, dates]
  rfl

theorem fewest_le (dialect : Dialect) (function : String) :
    dialect.fewest function ≤ Dialect.sqlite.fewest function := by
  cases dialect with
  | sqlite => exact Nat.le_refl _
  | postgres =>
    unfold Dialect.fewest
    dsimp only
    split
    · exact Nat.le_refl _
    · exact Nat.zero_le _

theorem node_call (function : String) (args : List Expr) :
    (Rule.emitted t stable).node (.call function args) =
      (decide (t.dialect.fewest function ≤ args.length) &&
        (t.placement == .select ||
          !(Expr.call function args).readsClock &&
            (t.dialect == .sqlite ||
              (isImmutable function args || stable.contains function)))) := by
  simp only [Rule.emitted, Rule.immutable, Dialect.takes]

/-- Arguments enough and a function that has nothing to do with the clock. -/
theorem node_of_isTimeless (timeless : isTimeless function = true) {args : List Expr}
    (enough : t.dialect.fewest function ≤ args.length) :
    (Rule.emitted t stable).node (.call function args) =
      (t.placement == .select ||
        (t.dialect == .sqlite || (isImmutable function args || stable.contains function))) := by
  rw [node_call, readsClock_of_isTimeless timeless, decide_eq_true enough, Bool.true_and,
    Bool.not_false, Bool.true_and]

theorem node_of_isFree (free : isFree function = true) (args : List Expr) :
    (Rule.emitted t stable).node (.call function args) =
      (t.placement == .select ||
        (t.dialect == .sqlite || (isImmutable function args || stable.contains function))) := by
  rw [isFree, Bool.and_eq_true, beq_iff_eq] at free
  refine node_of_isTimeless free.1 (Nat.le_trans (fewest_le t.dialect function) ?_)
  rw [free.2]
  exact Nat.zero_le _

@[simp] theorem node_of_isPlain (plain : isPlain function = true) (args : List Expr) :
    (Rule.emitted t stable).node (.call function args) = true := by
  rw [isPlain, Bool.and_eq_true] at plain
  rw [node_of_isFree plain.1, isImmutable, plain.2]
  simp

@[simp] theorem node_sqlite (free : isFree function = true) (args : List Expr) :
    (Rule.emitted ⟨.sqlite, placement⟩ stable).node (.call function args) = true := by
  rw [node_of_isFree free]
  exact Bool.or_true _

@[simp] theorem node_select (free : Dialect.sqlite.fewest function = 0) (args : List Expr) :
    (Rule.emitted ⟨dialect, .select⟩ stable).node (.call function args) = true := by
  have enough : dialect.fewest function ≤ args.length :=
    Nat.le_trans (fewest_le dialect function) (free ▸ Nat.zero_le _)
  rw [node_call, decide_eq_true enough]
  rfl

@[simp] theorem node_postgres_select (function : String) (e : Expr) :
    (Rule.emitted ⟨.postgres, .select⟩ stable).node (.call function [e]) = true := by
  have few : Dialect.postgres.fewest function ≤ 1 := by
    unfold Dialect.fewest
    dsimp only
    split
    · exact Nat.le_refl 1
    · exact Nat.zero_le 1
  rw [node_call]
  exact Bool.and_eq_true_iff.2 ⟨decide_eq_true few, rfl⟩

/-- The time that a function of SQLite looks at comes first, or second after a format. -/
@[simp] theorem node_date (dated : isDated function = true) {value : Expr}
    (apart : value.isNow = false) (rest : List Expr) :
    (Rule.emitted ⟨.sqlite, placement⟩ stable).node (.call function (value :: rest)) = true := by
  simp only [isDated, Bool.and_eq_true, bne_iff_ne, ne_eq, beq_iff_eq] at dated
  obtain ⟨⟨now, shown⟩, count⟩ := dated
  simp [node_call, count, Expr.readsClock, now, shown, apart]

@[simp] theorem node_strftime (format : Expr) {value : Expr} (apart : value.isNow = false)
    (rest : List Expr) :
    (Rule.emitted ⟨.sqlite, placement⟩ stable).node
      (.call "strftime" (format :: value :: rest)) = true := by
  have word : Text.lowered "strftime" = "strftime" := by decide
  have count : Dialect.sqlite.fewest "strftime" = 0 := by decide
  simp +decide [node_call, count, Expr.readsClock, word, apart]

@[simp] theorem isNow_call (function : String) (args : List Expr) :
    (Expr.call function args).isNow = false := by
  simp [Expr.isNow]

@[simp] theorem obeys_call :
    (Expr.call function args).obeys r = (r.node (.call function args) && allObey r args) := by
  rw [Expr.obeys, Expr.partsObey]

def Expr.isQuiet : Expr → Bool
  | .call _ _ | .aggregate _ _ _ | .window _ _ _ _ => false
  | _ => true

theorem node_of_isQuiet {e : Expr} (quiet : e.isQuiet = true) :
    (Rule.emitted t stable).node e = t.dialect.takes e := by
  cases e with
  | call | aggregate | window => cases quiet
  | _ =>
    simp only [Rule.emitted, Expr.readsClock, Rule.immutable, Bool.not_false, Bool.or_true,
      Bool.and_true]

theorem node_of_select (select : t.placement = .select) (e : Expr) :
    (Rule.emitted t stable).node e = t.dialect.takes e := by
  simp [Rule.emitted, select]

section

variable {e one other : Expr} {list : List Expr} {lower upper : Option Expr}

@[simp] theorem obeys_leaf :
    Expr.null.obeys (.emitted t stable) = true ∧
      (∀ value, (Expr.bool value).obeys (.emitted t stable) = true) ∧
      (∀ digits, (Expr.number digits).obeys (.emitted t stable) = true) ∧
      (∀ content, (Expr.text content).obeys (.emitted t stable) = true) ∧
      (∀ type content, (Expr.typed type content).obeys (.emitted t stable) = true) ∧
      (∀ qualifier name, (Expr.column qualifier name).obeys (.emitted t stable) = true) ∧
      ∀ sql, (Expr.fragment sql).obeys (.emitted t stable) = true := by
  refine ⟨?_, ?_, ?_, ?_, ?_, ?_, ?_⟩
  all_goals
    intros
    rw [Expr.obeys, node_of_isQuiet rfl, Expr.partsObey]
    rfl

@[simp] theorem obeys_binary :
    (Expr.binary one op other).obeys (.emitted t stable) =
      (t.dialect.hasOperator op &&
        (one.obeys (.emitted t stable) && other.obeys (.emitted t stable))) := by
  rw [Expr.obeys, node_of_isQuiet rfl, Expr.partsObey]
  rfl

@[simp] theorem obeys_chain :
    (Expr.chain op list).obeys (.emitted t stable) =
      (decide (2 ≤ list.length) && t.dialect.hasOperator op &&
        allObey (.emitted t stable) list) := by
  rw [Expr.obeys, node_of_isQuiet rfl, Expr.partsObey]
  rfl

@[simp] theorem obeys_unary :
    (Expr.unary op e).obeys (.emitted t stable) = e.obeys (.emitted t stable) := by
  rw [Expr.obeys, node_of_isQuiet rfl, Expr.partsObey]
  rfl

@[simp] theorem obeys_nullTest :
    (Expr.nullTest e negated).obeys (.emitted t stable) = e.obeys (.emitted t stable) := by
  rw [Expr.obeys, node_of_isQuiet rfl, Expr.partsObey]
  rfl

@[simp] theorem obeys_member :
    (Expr.member e list negated).obeys (.emitted t stable) =
      (!list.isEmpty && (e.obeys (.emitted t stable) && allObey (.emitted t stable) list)) := by
  rw [Expr.obeys, node_of_isQuiet rfl, Expr.partsObey]
  rfl

@[simp] theorem obeys_cast :
    (Expr.cast e type).obeys (.emitted t stable) =
      ((t.dialect == .postgres || type != .jsonb) && e.obeys (.emitted t stable)) := by
  rw [Expr.obeys, node_of_isQuiet rfl, Expr.partsObey]
  rfl

@[simp] theorem obeys_case :
    (Expr.case subject branches otherwise).obeys (.emitted t stable) =
      (!branches.isEmpty &&
        (maybeObeys (.emitted t stable) subject && branchesObey (.emitted t stable) branches &&
          maybeObeys (.emitted t stable) otherwise)) := by
  rw [Expr.obeys, node_of_isQuiet rfl, Expr.partsObey]
  rfl

@[simp] theorem obeys_atTimeZone :
    (Expr.atTimeZone one other).obeys (.emitted t stable) =
      (t.dialect == .postgres &&
        (one.obeys (.emitted t stable) && other.obeys (.emitted t stable))) := by
  rw [Expr.obeys, node_of_isQuiet rfl, Expr.partsObey]
  rfl

@[simp] theorem obeys_extract :
    (Expr.extract field e).obeys (.emitted t stable) =
      (t.dialect == .postgres && e.obeys (.emitted t stable)) := by
  rw [Expr.obeys, node_of_isQuiet rfl, Expr.partsObey]
  rfl

@[simp] theorem obeys_subscript :
    (Expr.subscript one other).obeys (.emitted t stable) =
      (t.dialect == .postgres &&
        (one.obeys (.emitted t stable) && other.obeys (.emitted t stable))) := by
  rw [Expr.obeys, node_of_isQuiet rfl, Expr.partsObey]
  rfl

@[simp] theorem obeys_slice :
    (Expr.slice e lower upper).obeys (.emitted t stable) =
      (t.dialect == .postgres &&
        (e.obeys (.emitted t stable) && maybeObeys (.emitted t stable) lower &&
          maybeObeys (.emitted t stable) upper)) := by
  rw [Expr.obeys, node_of_isQuiet rfl, Expr.partsObey]
  rfl

@[simp] theorem obeys_subquery :
    (Expr.subquery query).obeys (.emitted t stable) = query.obeys (.emitted t stable) := by
  rw [Expr.obeys, node_of_isQuiet rfl, Expr.partsObey]
  rfl

@[simp] theorem obeys_aggregate :
    (Expr.aggregate function list order).obeys (.emitted ⟨dialect, .select⟩ stable) =
      (dialect == .postgres && (allObey (.emitted ⟨dialect, .select⟩ stable) list &&
        allObey (.emitted ⟨dialect, .select⟩ stable) order)) := by
  rw [Expr.obeys, node_of_select rfl, Expr.partsObey]
  rfl

@[simp] theorem obeys_window :
    (Expr.window function list part order).obeys (.emitted ⟨dialect, .select⟩ stable) =
      (allObey (.emitted ⟨dialect, .select⟩ stable) list &&
        allObey (.emitted ⟨dialect, .select⟩ stable) part &&
        allObey (.emitted ⟨dialect, .select⟩ stable) order) := by
  rw [Expr.obeys, node_of_select rfl, Expr.partsObey]
  rfl

end

section

variable {r : Rule}

@[simp] theorem allObey_nil : allObey r [] = true := by rw [allObey]

@[simp] theorem allObey_cons : allObey r (e :: rest) = (e.obeys r && allObey r rest) := by
  rw [allObey, Expr.obeys]

@[simp] theorem maybeObeys_none : maybeObeys r none = true := by rw [maybeObeys]

@[simp] theorem maybeObeys_some : maybeObeys r (some e) = e.obeys r := by
  rw [maybeObeys, Expr.obeys]

@[simp] theorem branchesObey_nil : branchesObey r [] = true := by rw [branchesObey]

@[simp] theorem branchesObey_cons :
    branchesObey r (⟨condition, value⟩ :: rest) =
      (condition.obeys r && value.obeys r && branchesObey r rest) := by
  rw [branchesObey, Expr.obeys, Expr.obeys]

theorem allObey_iff : allObey r list = true ↔ ∀ e ∈ list, e.obeys r = true := by
  induction list with
  | nil => simp
  | cons e rest ih => simp [ih]

theorem branchesObey_iff :
    branchesObey r branches = true ↔
      ∀ branch ∈ branches, branch.condition.obeys r = true ∧ branch.value.obeys r = true := by
  induction branches with
  | nil => simp
  | cons branch rest ih =>
    cases branch
    simp [ih]

end

@[simp] theorem allObey_texts (contents : List String) :
    allObey (.emitted t stable) (contents.map .text) = true := by
  simp [allObey_iff]

section

variable {r : Rule}

@[simp] theorem columnsObey_nil : columnsObey r folded [] = true := by
  rw [columnsObey]

@[simp] theorem columnsObey_cons {value : Expr} (obeys : value.obeys r = true) :
    columnsObey r folded (⟨value, label⟩ :: rest) = columnsObey r folded rest := by
  rw [Expr.obeys, Bool.and_eq_true] at obeys
  rw [columnsObey, obeys.1, obeys.2]
  rfl

theorem columnsObey_fold (node : (r.node value || folded && r.fold value) = true)
    (parts : value.partsObey r = true) : columnsObey r folded [⟨value, label⟩] = true := by
  rw [columnsObey, node, parts, columnsObey]
  rfl

@[simp] theorem recursionObeys_none : recursionObeys r none = true := by rw [recursionObeys]

@[simp] theorem recursionObeys_some :
    recursionObeys r (some ⟨name, columns, anchor, step⟩) = (anchor.obeys r && step.obeys r) := by
  rw [recursionObeys]

@[simp] theorem queriesObey_nil : queriesObey r [] = true := by rw [queriesObey]

@[simp] theorem queriesObey_cons :
    queriesObey r (query :: rest) = (query.obeys r && queriesObey r rest) := by
  rw [queriesObey]

end

@[simp] theorem select_obeys :
    Select.obeys (.emitted t stable) ⟨recursion, columns, source, join, filter, order⟩ =
      (!columns.isEmpty && (t.dialect == .sqlite || recursion.isNone) &&
        recursionObeys (.emitted t stable) recursion &&
        columnsObey (.emitted t stable) (readsEach source join) columns &&
        sourceObeys (.emitted t stable) source && sourceObeys (.emitted t stable) join &&
        maybeObeys (.emitted t stable) filter && allObey (.emitted t stable) order) := by
  rw [Select.obeys]
  rfl

@[simp] theorem sourceObeys_none : sourceObeys (.emitted t stable) none = true := by
  rw [sourceObeys]

@[simp] theorem sourceObeys_table (name : String) :
    sourceObeys (.emitted t stable) (some (.table name)) = true := by
  rw [sourceObeys]
  rfl

@[simp] theorem sourceObeys_rows :
    sourceObeys (.emitted t stable) (some (.rows e label columns)) =
      e.obeys (.emitted t stable) := by
  rw [Source.rows, sourceObeys, Expr.obeys]
  simp [Rule.emitted, Rule.wellFormed]

@[simp] theorem sourceObeys_numberedRows :
    sourceObeys (.emitted t stable) (some (.numberedRows e label columns)) =
      (t.dialect == .postgres && e.obeys (.emitted t stable)) := by
  rw [Source.numberedRows, sourceObeys, Expr.obeys]
  simp [Rule.emitted, Rule.wellFormed]

@[simp] theorem sourceObeys_union :
    sourceObeys (.emitted t stable) (some (.union queries label columns)) =
      (!queries.isEmpty && queriesObey (.emitted t stable) queries) := by
  rw [sourceObeys]
  rfl

@[simp] theorem obeys_int (n : Int) : (Expr.int n).obeys (.emitted t stable) = true := by
  simp [Expr.int]

@[simp] theorem obeys_ofNat (n : Nat) :
    (no_index (OfNat.ofNat n : Expr)).obeys (.emitted t stable) = true :=
  obeys_int n

def BinOp.isCommon : BinOp → Bool
  | .regexMatch | .glob | .jsonGet | .jsonPath => false
  | _ => true

@[simp] theorem hasOperator_of_isCommon {dialect : Dialect} {op : BinOp}
    (common : op.isCommon = true) : dialect.hasOperator op = true := by
  cases op with
  | regexMatch | glob | jsonGet | jsonPath => cases common
  | _ => cases dialect <;> rfl

@[simp] theorem obeys_coalesce :
    (Expr.coalesce (e :: rest)).obeys (.emitted t stable) =
      (e.obeys (.emitted t stable) && allObey (.emitted t stable) rest) := by
  have enough : t.dialect.fewest "COALESCE" ≤ (e :: rest).length :=
    Nat.le_trans (fewest_le t.dialect "COALESCE") (Nat.le_add_left 1 _)
  have immutable : isImmutable "COALESCE" (e :: rest) = true := rfl
  rw [Expr.coalesce, obeys_call, node_of_isTimeless (by decide) enough, immutable, allObey_cons]
  simp

@[simp] theorem obeys_orElse {e default : Expr} :
    (e.orElse default).obeys (.emitted t stable) =
      (e.obeys (.emitted t stable) && default.obeys (.emitted t stable)) := by
  simp [Expr.orElse]

@[simp] theorem obeys_nullIf {e : Expr} :
    (e.nullIf value).obeys (.emitted t stable) =
      (e.obeys (.emitted t stable) && value.obeys (.emitted t stable)) := by
  simp +decide [Expr.nullIf]

@[simp] theorem obeys_caseWhen :
    (Expr.caseWhen branches otherwise).obeys (.emitted t stable) =
      (!branches.isEmpty && (branchesObey (.emitted t stable) branches &&
        maybeObeys (.emitted t stable) otherwise)) := by
  simp [Expr.caseWhen]

@[simp] theorem obeys_caseOf :
    (Expr.caseOf subject branches otherwise).obeys (.emitted t stable) =
      (!branches.isEmpty && (subject.obeys (.emitted t stable) &&
        branchesObey (.emitted t stable) branches &&
        maybeObeys (.emitted t stable) otherwise)) := by
  simp [Expr.caseOf]

@[simp] theorem obeys_ite :
    (Expr.ite condition whenTrue whenFalse).obeys (.emitted t stable) =
      (condition.obeys (.emitted t stable) && whenTrue.obeys (.emitted t stable) &&
        whenFalse.obeys (.emitted t stable)) := by
  simp [Expr.ite]

theorem obeys_sequence {op : BinOp} (common : op.isCommon = true) (some : items ≠ [])
    (each : allObey (.emitted t stable) items = true) :
    (Expr.sequence op items).obeys (.emitted t stable) = true := by
  cases items with
  | nil => exact absurd rfl some
  | cons first rest =>
    cases rest with
    | nil => simpa [Expr.sequence] using each
    | cons second rest =>
      rw [allObey_cons, allObey_cons] at each
      simpa [Expr.sequence, hasOperator_of_isCommon common] using each

section

variable {dialect : Dialect} {placement : Placement} {e one other : Expr}

@[simp] theorem obeys_position :
    (dialect.position one other).obeys (.emitted ⟨dialect, placement⟩ stable) =
      (one.obeys (.emitted ⟨dialect, placement⟩ stable) &&
        other.obeys (.emitted ⟨dialect, placement⟩ stable)) := by
  cases dialect <;> simp +decide [Dialect.position]

theorem obeys_several (timeless : isTimeless function = true) {args : List Expr}
    (enough : dialect.fewest function ≤ args.length)
    (immutable : dialect = .postgres → immutableFunctions.contains function = true) :
    (Expr.call function args).obeys (.emitted ⟨dialect, placement⟩ stable) =
      allObey (.emitted ⟨dialect, placement⟩ stable) args := by
  have node : (Rule.emitted ⟨dialect, placement⟩ stable).node (.call function args) = true := by
    rw [node_of_isTimeless (t := ⟨dialect, placement⟩) timeless enough]
    cases dialect with
    | postgres =>
      rw [isImmutable, immutable rfl]
      simp
    | sqlite => simp
  rw [obeys_call, node, Bool.true_and]

theorem obeys_greatest {args : List Expr} (some : 0 < args.length)
    (two : dialect = .sqlite → 1 < args.length) :
    (dialect.greatest args).obeys (.emitted ⟨dialect, placement⟩ stable) =
      allObey (.emitted ⟨dialect, placement⟩ stable) args := by
  cases dialect with
  | postgres => exact obeys_several (by decide) some (by decide)
  | sqlite => exact obeys_several (by decide) (two rfl) (by decide)

theorem obeys_least {args : List Expr} (some : 0 < args.length)
    (two : dialect = .sqlite → 1 < args.length) :
    (dialect.least args).obeys (.emitted ⟨dialect, placement⟩ stable) =
      allObey (.emitted ⟨dialect, placement⟩ stable) args := by
  cases dialect with
  | postgres => exact obeys_several (by decide) some (by decide)
  | sqlite => exact obeys_several (by decide) (two rfl) (by decide)

@[simp] theorem obeys_greatest_two :
    (dialect.greatest [one, other]).obeys (.emitted ⟨dialect, placement⟩ stable) =
      (one.obeys (.emitted ⟨dialect, placement⟩ stable) &&
        other.obeys (.emitted ⟨dialect, placement⟩ stable)) := by
  simp [obeys_greatest]

@[simp] theorem obeys_least_two :
    (dialect.least [one, other]).obeys (.emitted ⟨dialect, placement⟩ stable) =
      (one.obeys (.emitted ⟨dialect, placement⟩ stable) &&
        other.obeys (.emitted ⟨dialect, placement⟩ stable)) := by
  simp [obeys_least]

@[simp] theorem isNow_greatest (args : List Expr) : (dialect.greatest args).isNow = false := by
  cases dialect <;> simp [Dialect.greatest]

@[simp] theorem isNow_least (args : List Expr) : (dialect.least args).isNow = false := by
  cases dialect <;> simp [Dialect.least]

@[simp] theorem obeys_boundedInt {low high : Int} :
    (dialect.boundedInt e low high).obeys (.emitted ⟨dialect, placement⟩ stable) =
      e.obeys (.emitted ⟨dialect, placement⟩ stable) := by
  cases dialect <;> simp +decide [Dialect.boundedInt]

end

end SheetSql
