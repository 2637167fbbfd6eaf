import Mathlib.Data.List.Forall2
import SheetSql.Coerce.Branch
import SheetSql.Proofs.Outcome.Coerce
import SheetSql.Proofs.Typing.Comparison

namespace SheetSql

/-!
How two computations end that know the same of their arguments: in like expressions that obey the
rule of their target, or in the same error, which is foreseen.
-/

attribute [local simp] Expr.operator_eq

/-- Two computations with related results, or with the same allowed error. -/
inductive Agree {ε α β : Type} (r : α → β → Prop) (q : ε → Prop) : Except ε α → Except ε β → Prop
  | ok {a : α} {b : β} (related : r a b) : Agree r q (.ok a) (.ok b)
  | error {e : ε} (allowed : q e) : Agree r q (.error e) (.error e)

namespace Agree

variable {ε α β γ δ : Type} {r : α → β → Prop} {s : γ → δ → Prop} {q : ε → Prop}

theorem bind {x : Except ε α} {y : Except ε β} {f : α → Except ε γ} {g : β → Except ε δ}
    (first : Agree r q x y) (next : ∀ {a b}, r a b → Agree s q (f a) (g b)) :
    Agree s q (x >>= f) (y >>= g) := by
  cases first with
  | ok related => exact next related
  | error allowed => exact .error allowed

/-- A step that is the same in both computations. -/
theorem same {x : Except ε α} {f : α → Except ε γ} {g : α → Except ε δ} (first : Agree Eq q x x)
    (next : ∀ a, Agree s q (f a) (g a)) : Agree s q (x >>= f) (x >>= g) := by
  refine first.bind fun {a b} equal => ?_
  cases equal
  exact next a

theorem imp {s : α → β → Prop} {x : Except ε α} {y : Except ε β} (agree : Agree r q x y)
    (weaker : ∀ {a b}, r a b → s a b) : Agree s q x y := by
  cases agree with
  | ok related => exact .ok (weaker related)
  | error allowed => exact .error allowed

theorem mapM {f : α → Except ε γ} {g : β → Except ε δ} {as : List α} {bs : List β}
    (each : List.Forall₂ r as bs) (step : ∀ {a b}, r a b → Agree s q (f a) (g b)) :
    Agree (fun cs ds => cs.length = as.length ∧ List.Forall₂ s cs ds) q (as.mapM f)
      (bs.mapM g) := by
  induction each with
  | nil => exact .ok ⟨rfl, .nil⟩
  | cons head _ ih =>
    rw [List.mapM_cons, List.mapM_cons]
    exact (step head).bind fun first => ih.bind fun ⟨count, rest⟩ =>
      .ok ⟨congrArg (· + 1) count, .cons first rest⟩

end Agree

namespace Terms

variable {terms : Terms} {target : Target}

theorem sound_list (each : List.Forall₂ (terms.Sound target) list list') :
    AllAlike terms.likeness list list' ∧ allObey (.emitted target terms.stable) list = true := by
  induction each with
  | nil => exact ⟨.nil, allObey_nil⟩
  | cons head _ ih => simp [head, ih]

theorem sound_option (maybe : Option.Rel (terms.Sound target) e? e?') :
    MaybeAlike terms.likeness e? e?' ∧ maybeObeys (.emitted target terms.stable) e? = true := by
  cases maybe with
  | none => simp
  | some sound => simp [sound]

end Terms

/-- The same argument up to its text. Its kind is all that counts, unless it is JSON. -/
structure Operand.Alike (l : Likeness) (operand operand' : Operand) : Prop where
  texts : l.texts operand.sql operand'.sql
  kind : operand'.kind = operand.kind
  isLiteral : operand'.isLiteral = operand.isLiteral
  facts : operand.kind = .json → operand'.facts = operand.facts
  field : operand'.field = operand.field

section

variable {l : Likeness} {sql sql' : String} (texts : l.texts sql sql')

include texts

theorem textLiteral?_eq : Sql.textLiteral? sql' = Sql.textLiteral? sql := by
  rw [Sql.textLiteral?, Sql.textLiteral?, l.bare_eq texts]

theorem numberLiteral?_eq : Sql.numberLiteral? sql' = Sql.numberLiteral? sql := by
  rw [Sql.numberLiteral?, Sql.numberLiteral?, l.bare_eq texts]

theorem literalKind?_eq : literalKind? sql' = literalKind? sql := by
  rw [literalKind?, literalKind?, textLiteral?_eq texts, numberLiteral?_eq texts,
    Sql.isNullLiteral, Sql.isNullLiteral, Sql.boolLiteral?, Sql.boolLiteral?, l.bare_eq texts]

theorem fieldOf?_eq (job : Job) : Operand.fieldOf? job sql' = Operand.fieldOf? job sql := by
  rw [Operand.fieldOf?, Operand.fieldOf?, Sql.reference?, Sql.reference?, l.bare_eq texts]

theorem classify_alike (job : Job) (hint : Option Hint) :
    Operand.Alike l (.classify job sql hint) (.classify job sql' hint) := by
  unfold Operand.classify
  rw [literalKind?_eq texts, fieldOf?_eq texts]
  cases literalKind? sql with
  | some kind => exact ⟨texts, rfl, rfl, fun _ => rfl, rfl⟩
  | none =>
    dsimp only
    by_cases known : (Operand.ofHint sql hint).kind ≠ .unknown
    · rw [if_pos known, if_pos (show (Operand.ofHint sql' hint).kind ≠ .unknown from known)]
      exact ⟨texts, rfl, rfl, fun _ => rfl, rfl⟩
    · rw [if_neg known, if_neg (show ¬(Operand.ofHint sql' hint).kind ≠ .unknown from known)]
      cases Operand.fieldOf? job sql with
      | some field => exact ⟨texts, rfl, rfl, fun _ => rfl, rfl⟩
      | none => exact ⟨texts, rfl, rfl, fun _ => rfl, rfl⟩

end

namespace Operand.Alike

variable {operand operand' : Operand} (same : operand.Alike l operand')

include same

theorem isBlank : operand'.isBlank = operand.isBlank := by
  rw [Operand.isBlank, Operand.isBlank, same.kind]

theorem isTextLike : operand'.isTextLike = operand.isTextLike := by
  rw [Operand.isTextLike, Operand.isTextLike, same.kind]
  cases known : operand.kind with
  | json => rw [same.facts known]
  | _ => rfl

theorem isNumberLike : operand'.isNumberLike = operand.isNumberLike := by
  rw [Operand.isNumberLike, Operand.isNumberLike, same.kind]
  cases known : operand.kind with
  | json => rw [same.facts known]
  | _ => rfl

theorem isDatetimeLike : operand'.isDatetimeLike = operand.isDatetimeLike := by
  rw [Operand.isDatetimeLike, Operand.isDatetimeLike, same.kind]
  cases known : operand.kind with
  | json => rw [same.facts known]
  | _ => rfl

theorem isMultiValue : operand'.isMultiValue = operand.isMultiValue := by
  rw [Operand.isMultiValue, Operand.isMultiValue, same.kind]
  cases known : operand.kind with
  | json => rw [same.facts known]
  | _ => rfl

theorem clock (site : Site) : site.clock operand' = site.clock operand := by
  rw [Site.clock, Site.clock, same.field]

theorem asksForText : operand'.asksForText = operand.asksForText := by
  rw [Operand.asksForText, Operand.asksForText, same.isTextLike, same.isBlank]

end Operand.Alike

theorem literalKind?_ne_datetime (sql : String) : literalKind? sql ≠ some .datetime := by
  unfold literalKind?
  split
  · simp
  · split
    · simp
    · split <;> simp
    · simp
    · simp

theorem textLiteral?_of_literalKind? (other : literalKind? sql = none) :
    Sql.textLiteral? sql = none := by
  unfold literalKind? at other
  split at other
  · cases other
  · split at other
    · cases other
    · cases other
    · cases other
    · assumption

theorem Operand.classify_sql (job : Job) (sql : String) (hint : Option Hint) :
    (classify job sql hint).sql = sql := by
  unfold classify
  split
  · rfl
  · dsimp only
    split
    · rfl
    · split <;> rfl

theorem isNow_classify (moment : (Operand.classify job sql hint).kind = .datetime) :
    (Operand.classify job sql hint).expr.isNow = false := by
  cases literal : literalKind? sql with
  | some kind =>
    unfold Operand.classify at moment
    rw [literal] at moment
    exact absurd (literal.trans (congrArg some moment)) (literalKind?_ne_datetime sql)
  | none =>
    rw [Operand.expr, Operand.classify_sql, Expr.isNow, textLiteral?_of_literalKind? literal]
    rfl

namespace Operand

/-- No moment is a constant, and an operand of many values may fail where there is no query. -/
structure Fits (site : Site) (terms : Terms) (operand operand' : Operand) : Prop
    extends Operand.Alike terms.likeness operand operand' where
  queries : site.target.placement = .select → terms.likeness.queries
  apart : operand.kind = .datetime → operand.expr.isNow = false
  many : operand.kind = .json → site.target.placement = .generated →
    terms.allows (.needsSubquery site.operation)

theorem Fits.expr (fits : Fits site terms operand operand') (target : Target) :
    terms.Sound target operand.expr operand'.expr :=
  ⟨.fragment fits.texts, by simp [Operand.expr]⟩

/-- A moment may be written as text, which Postgres does by a function that is only stable. -/
def MayShow (operand : Operand) (site : Site) (terms : Terms) : Prop :=
  operand.kind = .datetime → site.target.dialect = .postgres →
    site.target.placement = .generated → "to_char" ∈ terms.stable

theorem mayShow_of_select {operand : Operand} {site : Site}
    (select : site.target.placement = .select) : operand.MayShow site terms := by
  intro _ _ generated
  cases select.symm.trans generated

def comparedAsText (left right : Operand) : List Operand :=
  if left.asksForText || right.asksForText then [left, right] else []

end Operand

namespace Site

open Coerce

def Keeps (site : Site) (terms : Terms) : Except Error Expr → Except Error Expr → Prop :=
  Agree (terms.Sound site.target) terms.allows

theorem Keeps.alike {site : Site} (keeps : site.Keeps terms x y) :
    Agree (Expr.Alike terms.likeness) (fun _ => True) x y := by
  cases keeps with
  | ok sound => exact .ok sound.1
  | error => exact .error trivial

theorem target_select {site : Site} (select : site.target.placement = .select) :
    site.target = ⟨site.target.dialect, .select⟩ := by
  rw [← select]

theorem target_of_dialect {site : Site} (same : site.target.dialect = dialect) :
    site.target = ⟨dialect, site.target.placement⟩ := by
  rw [← same]

variable {site : Site} {terms : Terms} {operand operand' : Operand}

theorem needSubquery_keeps {α β : Type} {r : α → β → Prop} {x : Except Error α}
    {y : Except Error β} (queries : site.target.placement = .select → terms.likeness.queries)
    (many : site.target.placement = .generated → terms.allows (.needsSubquery site.operation))
    (next : site.target.placement = .select → terms.likeness.queries →
      Agree r terms.allows x y) :
    Agree r terms.allows (site.needSubquery >>= fun _ => x) (site.needSubquery >>= fun _ => y) := by
  unfold needSubquery
  cases placement : site.target.placement with
  | select => exact next placement (queries placement)
  | generated => exact .error (many placement)

section

variable (fits : operand.Fits site terms operand')

include fits

theorem jsonNumber_keeps (json : operand.kind = .json) (name : isFunctionName aggregate = true)
    (known : (isFree aggregate || ["max", "min"].contains (Text.lowered aggregate)) = true) :
    site.Keeps terms
      (do
        site.needSubquery
        return jsonNumber site.target.dialect aggregate operand.expr)
      (do
        site.needSubquery
        return jsonNumber site.target.dialect aggregate operand'.expr) := by
  refine needSubquery_keeps fits.queries (fits.many json) fun select queries => .ok ?_
  rw [target_select select]
  exact jsonNumber_sound queries (fits.expr _) name known

theorem toNumber_keeps : site.Keeps terms (site.toNumber operand) (site.toNumber operand') := by
  have sound := fits.expr site.target
  unfold toNumber
  rw [fits.kind]
  cases kind : operand.kind with
  | blank => exact .ok (by simp)
  | number => exact .ok (by simp +decide [sound])
  | boolean => exact .ok (by simp +decide [sound])
  | json => exact jsonNumber_keeps fits kind (by decide) (by decide)
  | text | datetime | unknown => exact .ok (looseNumber_sound sound)

theorem toNumberOrZero_keeps :
    site.Keeps terms (site.toNumberOrZero operand) (site.toNumberOrZero operand') :=
  (toNumber_keeps fits).bind fun number => .ok (by simp [number])

theorem toText_keeps (shows : operand.MayShow site terms) :
    site.Keeps terms (site.toText operand) (site.toText operand') := by
  have sound := fits.expr site.target
  unfold toText
  rw [fits.kind, fits.isLiteral, fits.isMultiValue, terms.likeness.bare_eq fits.texts]
  cases kind : operand.kind with
  | blank | text => exact .ok sound
  | json =>
    cases placement : site.target.placement with
    | select =>
      refine .ok ?_
      rw [target_select placement]
      exact jsonJoin_sound (fits.queries placement) (fits.expr _) (by simp)
        (.inl fun _ => rfl)
    | generated =>
      dsimp only
      split
      · exact .error (fits.many kind placement)
      · exact .ok (jsonText_sound sound)
  | boolean => exact .ok (by simp +decide [sound])
  | number =>
    dsimp only
    split
    · exact .ok (by simp)
    · exact .ok (numberText_sound sound)
  | datetime => exact .ok (datetimeText_sound sound (fits.apart kind) (shows kind))
  | unknown => exact .ok (by simp +decide [sound])

theorem toTextOrEmpty_keeps (shows : operand.MayShow site terms) :
    site.Keeps terms (site.toTextOrEmpty operand) (site.toTextOrEmpty operand') := by
  unfold toTextOrEmpty
  rw [fits.isBlank]
  split
  · exact .ok (by simp)
  · exact (toText_keeps fits shows).bind fun text => .ok (by simp [text])

theorem toBool_keeps : site.Keeps terms (site.toBool operand) (site.toBool operand') := by
  have sound := fits.expr site.target
  unfold toBool
  rw [fits.kind]
  cases kind : operand.kind with
  | blank => exact .ok (by simp)
  | boolean => exact .ok (boolTruth_sound sound)
  | json => exact .ok (jsonTruth_sound sound)
  | number => exact (toNumberOrZero_keeps fits).bind fun number => .ok (by simp +decide [number])
  | text => exact .ok (by simp +decide [sound])
  | datetime => exact .ok (by simpa using sound)
  | unknown => exact .ok (unknownTruth_sound sound)

theorem toDatetime_sound :
    terms.Sound site.target (site.toDatetime operand) (site.toDatetime operand') := by
  have sound := fits.expr site.target
  unfold toDatetime
  rw [fits.kind, fits.clock]
  cases kind : operand.kind with
  | blank | number | boolean => simp
  | datetime => exact normalDatetime_sound sound (fits.apart kind)
  | json => exact parseIso_sound (jsonText_sound sound) _
  | text | unknown => exact parseIso_sound sound _

theorem isNow_toDatetime : (site.toDatetime operand).isNow = false := by
  unfold toDatetime
  cases kind : operand.kind with
  | blank | number | boolean => rfl
  | datetime =>
    cases site.target.dialect with
    | postgres => exact fits.apart kind
    | sqlite => rfl
  | json | text | unknown => cases site.target.dialect <;> rfl

end

section

variable {p : Operand → Bool} {branches branches' : List Operand}
  (each : List.Forall₂ (Operand.Alike l) branches branches')

include each

theorem any_eq (known : ∀ {operand operand'}, operand.Alike l operand' → p operand' = p operand) :
    branches'.any p = branches.any p := by
  induction each with
  | nil => rfl
  | cons head _ ih => rw [List.any_cons, List.any_cons, known head, ih]

theorem branchType_eq : site.branchType branches' = site.branchType branches := by
  have typed := List.rel_filter (p := fun branch => !branch.isBlank && branch.kind != .unknown)
    (q := fun branch => !branch.isBlank && branch.kind != .unknown)
    (fun _ _ same => by dsimp only; rw [same.isBlank, same.kind]) each
  unfold Site.branchType
  generalize branches.filter _ = list, branches'.filter _ = list' at typed
  have empty : list'.isEmpty = list.isEmpty := by cases typed <;> rfl
  have booleans : (list'.all (·.kind == .boolean)) = list.all (·.kind == .boolean) := by
    rw [List.all_eq_not_any_not, List.all_eq_not_any_not]
    exact congrArg _ (any_eq typed fun same => by rw [same.kind])
  dsimp only
  rw [any_eq typed fun same => same.isDatetimeLike, any_eq typed fun same => same.isNumberLike,
    any_eq typed fun same => same.isTextLike, empty, booleans]

end

theorem branchType_of_datetime (member : branch ∈ branches) (moment : branch.kind = .datetime) :
    site.branchType branches = .datetime := by
  have typed : branch ∈ branches.filter fun branch => !branch.isBlank && branch.kind != .unknown :=
    List.mem_filter.2 ⟨member, by simp [Operand.isBlank, moment]⟩
  have like : branch.isDatetimeLike = true := by rw [Operand.isDatetimeLike, moment]
  unfold branchType
  exact if_pos (List.any_eq_true.2 ⟨branch, typed, like⟩)

theorem branchValue_keeps (member : operand ∈ branches) (fits : operand.Fits site terms operand') :
    site.Keeps terms (site.branchValue (site.branchType branches) operand)
      (site.branchValue (site.branchType branches) operand') := by
  unfold branchValue
  rw [fits.isBlank, fits.kind]
  cases type : site.branchType branches with
  | text =>
    refine toText_keeps fits fun moment => ?_
    rw [branchType_of_datetime member moment] at type
    cases type
  | datetime =>
    dsimp only
    split
    · exact .ok (by simp)
    · exact .ok (toDatetime_sound fits)
  | number =>
    dsimp only
    split
    · exact .ok (by simp)
    · exact toNumber_keeps fits
  | boolean =>
    dsimp only
    split
    · exact .ok (by simp)
    · exact .ok (fits.expr _)
    · exact toBool_keeps fits

theorem otherwise_keeps {default default' : Option Operand}
    (both : Option.Rel (Operand.Fits site terms) default default')
    (inside : ∀ operand ∈ default, operand ∈ branches) :
    Agree (Option.Rel (terms.Sound site.target)) terms.allows
      (default.mapM (site.branchValue (site.branchType branches)))
      (default'.mapM (site.branchValue (site.branchType branches))) := by
  cases both with
  | none => exact .ok .none
  | some same =>
    exact (branchValue_keeps (inside _ rfl) same).bind fun value => .ok (.some value)

variable {left left' right right' : Operand}

theorem sides_keeps {op : BinOp} (common : op.isCommon = true)
    (one : site.Keeps terms (coerce left) (coerce' left'))
    (other : site.Keeps terms (coerce right) (coerce' right')) :
    site.Keeps terms (sides coerce op left right) (sides coerce' op left' right') :=
  one.bind fun first => other.bind fun second => .ok (by simp [common, first, second])

theorem mayShow_of_not (other : ¬p = true) (like : operand.isDatetimeLike = true → p) :
    operand.MayShow site terms := by
  intro moment
  refine absurd (like ?_) other
  rw [Operand.isDatetimeLike, moment]

theorem equalSide_keeps (fits : operand.Fits site terms operand')
    (among : operand.isDatetimeLike = true → (left.isDatetimeLike || right.isDatetimeLike) = true)
    (shows : (left.asksForText || right.asksForText) = true → operand.MayShow site terms) :
    site.Keeps terms (site.equalSide left right operand) (site.equalSide left right operand') := by
  unfold equalSide
  split
  · exact toTextOrEmpty_keeps fits (shows ‹_›)
  · split
    · exact .ok (toDatetime_sound fits)
    · rename_i other
      split
      · exact toBool_keeps fits
      · split
        · exact toNumberOrZero_keeps fits
        · exact toTextOrEmpty_keeps fits (mayShow_of_not other among)

theorem orderSide_keeps (fits : operand.Fits site terms operand')
    (among : operand.isDatetimeLike = true → (left.isDatetimeLike || right.isDatetimeLike) = true) :
    site.Keeps terms (site.orderSide left right operand) (site.orderSide left right operand') := by
  unfold orderSide
  split
  · exact .ok (toDatetime_sound fits)
  · rename_i other
    split
    · exact toNumberOrZero_keeps fits
    · exact toTextOrEmpty_keeps fits (mayShow_of_not other among)

section

variable (first : left.Fits site terms left') (second : right.Fits site terms right')

include first second

theorem equal_keeps (shows : ∀ operand ∈ left.comparedAsText right, operand.MayShow site terms) :
    site.Keeps terms (site.equal negated left right) (site.equal negated left' right') := by
  have sides : site.equalSide left' right' = site.equalSide left right := by
    unfold equalSide
    rw [first.asksForText, second.asksForText, first.isDatetimeLike, second.isDatetimeLike,
      first.kind, second.kind, first.isNumberLike, second.isNumberLike]
  rw [equal_eq_sides, equal_eq_sides, sides]
  refine sides_keeps (by cases negated <;> rfl) ?_ ?_
  · exact equalSide_keeps first (fun like => by rw [like, Bool.true_or]) fun asks =>
      shows left (by simp [Operand.comparedAsText, asks])
  · exact equalSide_keeps second (fun like => by rw [like, Bool.or_true]) fun asks =>
      shows right (by simp [Operand.comparedAsText, asks])

theorem compare_keeps {op : BinOp} (common : op.isCommon = true) :
    site.Keeps terms (site.compare op left right) (site.compare op left' right') := by
  have sides : site.orderSide left' right' = site.orderSide left right := by
    unfold orderSide
    rw [first.isDatetimeLike, second.isDatetimeLike, first.isTextLike, second.isTextLike,
      first.isNumberLike, second.isNumberLike]
  rw [compare_eq_sides, compare_eq_sides, sides]
  refine sides_keeps common ?_ ?_
  · exact orderSide_keeps first fun like => by rw [like, Bool.true_or]
  · exact orderSide_keeps second fun like => by rw [like, Bool.or_true]

end

end Site

end SheetSql
