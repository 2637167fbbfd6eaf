import SheetSql.Proofs.Meaning.Division
import SheetSql.Proofs.Outcome.Call
import SheetSql.Proofs.Query.Answer

namespace SheetSql

/-! Truth that is never null. -/

open Coerce Database

namespace Value

theorem exists_castText {v : Value} (filled : v ≠ .null) (shown : ℚ → List Char) :
    ∃ cs, v.castText shown = .text cs := by
  cases v with
  | null => exact absurd rfl filled
  | bool _ | int _ | real _ | text _ | other _ => exact ⟨_, rfl⟩

/-- A value that can be compared with texts: a text, and on SQLite anything but a null. -/
def IsText (dialect : Dialect) (v : Value) : Prop :=
  v ≠ .null ∧ (dialect = .postgres → ∃ cs, v = .text cs)

theorem isText_text (dialect : Dialect) (cs : List Char) : (Value.text cs).IsText dialect :=
  ⟨Value.noConfusion, fun _ => ⟨cs, rfl⟩⟩

theorem equal?_ne_null {a b : Value} (first : a ≠ .null) (second : b ≠ .null) :
    a.equal? b ≠ some none := by
  cases a <;> cases b <;> simp_all [equal?, number?]

theorem exists_same_of_number {a b : Value} (first : a.number?.isSome = true)
    (second : b.number?.isSome = true) : ∃ t, a.same? dialect b = some (some t) := by
  obtain ⟨p, left⟩ := Option.isSome_iff_exists.1 first
  obtain ⟨q, right⟩ := Option.isSome_iff_exists.1 second
  refine ⟨p == q, ?_⟩
  have equal : a.equal? b = some (some (p == q)) := by
    cases a <;> cases b <;> simp_all [equal?, number?]
  rw [same?, equal]
  rfl

theorem exists_same_sqlite {a b : Value} (first : a ≠ .null) (second : b ≠ .null) :
    ∃ t, a.same? .sqlite b = some (some t) := by
  rw [same?]
  cases equal : a.equal? b with
  | none => exact ⟨_, rfl⟩
  | some result =>
    cases result with
    | none => exact absurd equal (equal?_ne_null first second)
    | some t => exact ⟨t, rfl⟩

theorem exists_same_of_isText {dialect : Dialect} {a b : Value} (first : a.IsText dialect)
    (second : b.IsText dialect) : ∃ t, a.same? dialect b = some (some t) := by
  cases dialect with
  | postgres =>
    obtain ⟨cs, rfl⟩ := first.2 rfl
    obtain ⟨ds, rfl⟩ := second.2 rfl
    exact ⟨cs == ds, rfl⟩
  | sqlite => exact exists_same_sqlite first.1 second.1

theorem exists_castReal {dialect : Dialect} {v : Value}
    (held : dialect = .postgres → v = .null ∨ v.number?.isSome = true)
    (stored : dialect = .sqlite → ∀ b, v ≠ .bool b) :
    ∃ w, v.castReal dialect = some w ∧ (w = .null ∨ w.number?.isSome = true) := by
  cases dialect with
  | postgres =>
    cases v with
    | null | int _ | real _ => exact ⟨_, rfl, by simp [number?]⟩
    | bool _ | text _ | other _ => simpa [number?] using held rfl
  | sqlite =>
    cases v with
    | bool b => exact absurd rfl (stored rfl b)
    | null | int _ | real _ | text _ | other _ => exact ⟨_, rfl, by simp [number?]⟩

end Value

/-- The value of an operand has the type of its kind. SQLite holds any value in any column. -/
structure Database.Holds (db : Database) (operand : Operand) : Prop where
  number : db.dialect = .postgres → operand.kind = .number →
    db.fragment operand.sql = .null ∨ (db.fragment operand.sql).number?.isSome = true
  boolean : db.dialect = .postgres → operand.kind = .boolean →
    db.fragment operand.sql = .null ∨ ∃ b, db.fragment operand.sql = .bool b
  text : db.dialect = .postgres → operand.kind = .text →
    db.fragment operand.sql = .null ∨ ∃ cs, db.fragment operand.sql = .text cs

def Expr.IsTruth (db : Database) (scope : Scope) (e : Expr) : Prop :=
  ∃ b, e.Answers db scope (.value (.ofBool db.dialect b))

section

variable {db : Database} {scope : Scope} {e : Expr}

theorem answers_compare {left right : Expr} {a b : Value} (first : left.Answers db scope (.value a))
    (second : right.Answers db scope (.value b))
    (decided : ∃ t, a.same? db.dialect b = some (some t)) :
    ∃ t, (left.eq right).Answers db scope (.value (.ofBool db.dialect t)) ∧
      (left.ne right).Answers db scope (.value (.ofBool db.dialect !t)) := by
  obtain ⟨t, same⟩ := decided
  refine ⟨t, .binary first second fun areIntegers => ?_, .binary first second fun areIntegers => ?_⟩
  · change ((a.same? db.dialect b).map _).map _ = _
    rw [same]
    rfl
  · change ((a.same? db.dialect b).map _).map _ = _
    rw [same]
    rfl

namespace Expr.IsTruth

theorem exists_truth (truth : IsTruth db scope e) :
    ∃ b, e.Answers db scope (.value (.ofTruth db.dialect b)) := by
  obtain ⟨b, value⟩ := truth
  exact ⟨some b, value⟩

theorem bool (b : Bool) : IsTruth db scope (.bool b) := ⟨b, .bool b⟩

theorem nullTest {a : Datum} (negated : Bool) (value : e.Answers db scope a) :
    IsTruth db scope (.nullTest e negated) := ⟨_, .nullTest negated value⟩

theorem not (truth : IsTruth db scope e) : IsTruth db scope e.not := by
  obtain ⟨b, value⟩ := truth
  exact ⟨!b, .not value (Value.holds?_ofTruth db.dialect (some b))⟩

theorem memberTexts {cs : List Char} (words : List String) (negated : Bool)
    (value : e.Answers db scope (.value (.text cs))) :
    IsTruth db scope (.member e (words.map .text) negated) := by
  have looked : (Value.text cs).among? (words.map fun word => .text word.toList) =
      some (some ((words.map String.toList).any (cs == ·))) := by
    rw [← Value.among?_texts, List.map_map]
    rfl
  have found := Expr.Answers.member negated value (Expr.Answers.texts words) looked
  cases negated with
  | true => exact ⟨_, found⟩
  | false => exact ⟨_, found⟩

theorem caseWhen {branches : List Branch} {last : Expr}
    (each : ∀ branch ∈ branches, branch.condition.IsTruth db scope ∧ branch.value.IsTruth db scope)
    (otherwise : last.IsTruth db scope) :
    IsTruth db scope (.caseWhen branches (some last)) := by
  suffices chosen : ∃ b, answerBranches db scope (answerOptional db scope (some last)) branches =
      some (.value (.ofBool db.dialect b)) by
    obtain ⟨b, chosen⟩ := chosen
    exact ⟨b, .caseWhen chosen⟩
  induction branches with
  | nil =>
    rw [answerBranches, answerOptional]
    exact otherwise
  | cons branch rest ih =>
    obtain ⟨condition, value⟩ := branch
    obtain ⟨⟨t, holds⟩, value⟩ := each _ List.mem_cons_self
    rw [answerBranches_cons holds (Value.holds?_ofTruth db.dialect (some t))]
    cases t with
    | true => exact value
    | false => exact ih fun other member => each other (List.mem_cons_of_mem _ member)

end Expr.IsTruth

theorem ofText_of_isText (f : List Char → List Char) {v : Value} (text : v.IsText db.dialect) :
    ∃ cs, db.ofText f v = some (.text cs) := by
  unfold Database.ofText
  cases dialect : db.dialect with
  | postgres =>
    obtain ⟨cs, rfl⟩ := text.2 dialect
    exact ⟨f cs, rfl⟩
  | sqlite =>
    obtain ⟨cs, shown⟩ := Value.exists_castText text.1 db.shown
    refine ⟨f cs, ?_⟩
    have spelled : v.text? db.shown = some cs := by rw [Value.text?, shown]
    cases v with
    | null => exact absurd rfl text.1
    | bool _ | int _ | real _ | text _ | other _ =>
      dsimp only
      rw [spelled]
      rfl

theorem answers_orElse_value {default : Expr} (value : e.Answers db scope (.value v))
    (last : default.Answers db scope (.value w)) :
    (e.orElse default).Answers db scope (.value (if v = .null then w else v)) := by
  have chosen := Expr.Answers.orElse value last
  by_cases null : v = .null
  · rw [Datum.isNull, decide_eq_true null, if_pos rfl] at chosen
    rwa [if_pos null]
  · rw [Datum.isNull, decide_eq_false null, if_neg Bool.false_ne_true] at chosen
    rwa [if_neg null]

theorem answers_zero : (0 : Expr).Answers db scope (.value (.int 0)) := by
  have read : Decimal.read? "0".toList = some ⟨false, 0, 0⟩ := rfl
  exact .number read

theorem exists_orElse_zero (value : e.Answers db scope (.value w))
    (number : w = .null ∨ w.number?.isSome = true) :
    ∃ u, (e.orElse 0).Answers db scope (.value u) ∧ u.number?.isSome = true := by
  refine ⟨_, answers_orElse_value value answers_zero, ?_⟩
  rcases number with rfl | number
  · rfl
  · have other : w ≠ .null := by
      rintro rfl
      cases number
    rwa [if_neg other]

section

variable {v : Value} (value : e.Answers db scope (.value v))

include value

theorem isTruth_boolTruth (held : db.dialect = .postgres → v = .null ∨ ∃ b, v = .bool b) :
    (boolTruth db.dialect e).IsTruth db scope := by
  cases dialect : db.dialect with
  | postgres =>
    have chosen := answers_orElse_value value (.bool false)
    rw [dialect] at chosen
    rcases held dialect with rfl | ⟨b, rfl⟩
    · exact ⟨false, by rw [dialect]; exact chosen⟩
    · exact ⟨b, by rw [dialect]; exact chosen⟩
  | sqlite =>
    have chosen := answers_orElse_value value answers_zero
    have filled : (if v = .null then .int 0 else v) ≠ .null := by
      split
      · exact Value.noConfusion
      · assumption
    obtain ⟨t, -, differs⟩ := answers_compare chosen answers_zero
      (by rw [dialect]; exact Value.exists_same_sqlite filled Value.noConfusion)
    exact ⟨!t, differs⟩

theorem answers_castText :
    (e.cast .text).Answers db scope (.value (v.castText db.shown)) := .cast value rfl

theorem isTruth_jsonTruth : (jsonTruth e).IsTruth db scope := by
  have text := answers_castText value
  by_cases null : v = .null
  · -- A null is in no list, but then the other condition fails.
    subst null
    have known : e.isNotNull.Answers db scope (.value (.ofTruth db.dialect (some false))) :=
      .nullTest true value
    have unknown : (Value.null.castText db.shown).among?
        (["null", "[]", "\x7b\x7d", "", "\"\""].map fun word => .text word.toList) =
          some none := rfl
    have member := Expr.Answers.member true text (Expr.Answers.texts _) unknown
    exact ⟨false, known.and member⟩
  · have known : e.isNotNull.Answers db scope (.value (.ofTruth db.dialect (some true))) := by
      have test := Expr.Answers.nullTest true value
      rwa [Datum.isNull, decide_eq_false null] at test
    obtain ⟨cs, shown⟩ := Value.exists_castText null db.shown
    rw [shown] at text
    obtain ⟨t, member⟩ := Expr.IsTruth.memberTexts
      ["null", "[]", "\x7b\x7d", "", "\"\""] true text
    have member : Expr.Answers db scope _ (.value (.ofTruth db.dialect (some t))) := member
    have both := known.and member
    cases t with
    | true => exact ⟨true, both⟩
    | false => exact ⟨false, both⟩

theorem isTruth_number (held : db.dialect = .postgres → v = .null ∨ v.number?.isSome = true)
    (stored : db.dialect = .sqlite → ∀ b, v ≠ .bool b) :
    (((e.cast .double).orElse 0).ne 0).IsTruth db scope := by
  obtain ⟨w, real, number⟩ := Value.exists_castReal held stored
  have cast : (e.cast .double).Answers db scope (.value w) :=
    .cast value (congrArg (Option.map Datum.value) real)
  obtain ⟨u, filled, number⟩ := exists_orElse_zero cast number
  obtain ⟨t, -, differs⟩ :=
    answers_compare filled answers_zero (Value.exists_same_of_number number rfl)
  exact ⟨!t, differs⟩

theorem answers_lower (held : db.dialect = .postgres → v = .null ∨ ∃ cs, v = .text cs) :
    ∃ cs, (Expr.call "LOWER" [e.orElse (.text "")]).Answers db scope (.value (.text cs)) := by
  have chosen := answers_orElse_value value (.text "")
  suffices lowered : ∃ cs,
      db.ofText db.lower (if v = .null then .text [] else v) = some (.text cs) by
    obtain ⟨cs, lowered⟩ := lowered
    refine ⟨cs, .call (by decide) (.cons chosen .nil) ?_⟩
    exact congrArg (Option.map Datum.value) lowered
  generalize filled : (if v = .null then .text [] else v) = w
  have other : w ≠ .null := by
    rw [← filled]
    split
    · exact Value.noConfusion
    · assumption
  have text : db.dialect = .postgres → ∃ cs, w = .text cs := by
    intro postgres
    rw [← filled]
    rcases held postgres with rfl | ⟨cs, rfl⟩
    · exact ⟨[], rfl⟩
    · exact ⟨cs, rfl⟩
  exact ofText_of_isText db.lower ⟨other, text⟩

end

open Classical in
theorem answers_regexMatch {r : Regex} (stands : r.fits .whole = true)
    (value : e.Answers db scope (.value (.text cs))) :
    (regexMatch e r).Answers db scope
      (.value (.ofTruth db.dialect (some (decide (r.Accepts cs))))) := by
  refine .binary value (.text r.text) fun areIntegers => ?_
  rw [binary_value_regexMatch, regexMatch?_text stands]
  rfl

theorem isTruth_regexMatch {r : Regex} (stands : r.fits .whole = true) {cs : List Char}
    (value : e.Answers db scope (.value (.text cs))) : (regexMatch e r).IsTruth db scope :=
  ⟨_, answers_regexMatch stands value⟩

theorem isTruth_eqText {cs : List Char} (word : String)
    (value : e.Answers db scope (.value (.text cs))) : (e.eq (.text word)).IsTruth db scope := by
  obtain ⟨t, equal, -⟩ := answers_compare value (.text word)
    (Value.exists_same_of_isText (Value.isText_text _ _) (Value.isText_text _ _))
  exact ⟨t, equal⟩

theorem isTruth_unknownTruth_postgres (placement : Placement) (sql : String) :
    (unknownTruth ⟨.postgres, placement⟩ (.fragment sql)).IsTruth db scope := by
  have value : (Expr.fragment sql).Answers db scope (.value (db.fragment sql)) := .fragment sql
  have shown : db.dialect = .postgres → (db.fragment sql).castText db.shown = .null ∨
      ∃ cs, (db.fragment sql).castText db.shown = .text cs := by
    intro _
    by_cases null : db.fragment sql = .null
    · rw [null]
      exact .inl rfl
    · exact .inr (Value.exists_castText null db.shown)
  obtain ⟨cs, lower⟩ := answers_lower (answers_castText value) shown
  cases placement with
  | generated => exact .memberTexts ["", "null", "false", "0", "[]", "\x7b\x7d"] true lower
  | select =>
    have type : ((Expr.call "pg_typeof" [.fragment sql]).cast .text).Answers db scope
        (.value (.text (db.typeOf sql))) := .cast (.typeOf sql) rfl
    refine .caseWhen ?_ (.memberTexts ["", "null"] true lower)
    simp only [List.forall_mem_cons]
    refine ⟨⟨.nullTest false value, .bool false⟩, ⟨isTruth_eqText _ type, isTruth_eqText _ lower⟩,
      ⟨.memberTexts numberTypes false type, (isTruth_regexMatch (by rfl) lower).not⟩, nofun⟩

theorem isTruth_unknownTruth_sqlite (sqlite : db.dialect = .sqlite) (placement : Placement)
    (sql : String) : (unknownTruth ⟨.sqlite, placement⟩ (.fragment sql)).IsTruth db scope := by
  have value : (Expr.fragment sql).Answers db scope (.value (db.fragment sql)) := .fragment sql
  generalize db.fragment sql = v at value
  have type : (Expr.call "typeof" [.fragment sql]).Answers db scope
      (.value (.text v.typeName.toList)) := .call (by decide) (.cons value .nil) rfl
  have differs : v ≠ .null → ((Expr.fragment sql).ne 0).IsTruth db scope := by
    intro filled
    obtain ⟨t, -, differs⟩ := answers_compare value answers_zero
      (by rw [sqlite]; exact Value.exists_same_sqlite filled Value.noConfusion)
    exact ⟨!t, differs⟩
  have words : v ≠ .null → Expr.IsTruth db scope
      (.member (.call "LOWER" [(Expr.fragment sql).cast .text]) [.text "", .text "null"] true) := by
    intro filled
    obtain ⟨cs, shown⟩ := Value.exists_castText filled db.shown
    have text := answers_castText value
    rw [shown] at text
    obtain ⟨ds, lowered⟩ := ofText_of_isText db.lower (Value.isText_text db.dialect cs)
    have lower : (Expr.call "LOWER" [(Expr.fragment sql).cast .text]).Answers db scope
        (.value (.text ds)) :=
      .call (by decide) (.cons text .nil) (congrArg (Option.map Datum.value) lowered)
    exact .memberTexts ["", "null"] true lower
  suffices chosen : ∃ b, answerBranchesOf db scope (.text v.typeName.toList)
      (answerOptional db scope
        (some (.member (.call "LOWER" [(Expr.fragment sql).cast .text])
          [.text "", .text "null"] true)))
      [⟨.text "null", .bool false⟩, ⟨.text "integer", (Expr.fragment sql).ne 0⟩,
        ⟨.text "real", (Expr.fragment sql).ne 0⟩] = some (.value (.ofBool db.dialect b)) by
    obtain ⟨b, chosen⟩ := chosen
    exact ⟨b, .caseOf type chosen⟩
  rw [answerBranchesOf_cons (.text "null") rfl, answerBranchesOf_cons (.text "integer") rfl,
    answerBranchesOf_cons (.text "real") rfl, answerBranchesOf, answerOptional]
  cases v with
  | null =>
    rw [if_pos (by decide)]
    exact Expr.IsTruth.bool false
  | bool _ | int _ =>
    rw [Value.typeName, if_neg (by decide), if_pos (by decide)]
    exact differs Value.noConfusion
  | real _ =>
    rw [Value.typeName, if_neg (by decide), if_neg (by decide), if_pos (by decide)]
    exact differs Value.noConfusion
  | text _ | other _ =>
    rw [Value.typeName, if_neg (by decide), if_neg (by decide), if_neg (by decide)]
    exact words Value.noConfusion

theorem isTruth_toBool (site : Site) (same : db.dialect = site.target.dialect)
    (held : db.Holds operand) : ∃ e, site.toBool operand = .ok e ∧ e.IsTruth db scope := by
  have value : operand.expr.Answers db scope (.value (db.fragment operand.sql)) := .fragment _
  unfold Site.toBool
  rw [← same]
  cases kind : operand.kind with
  | blank => exact ⟨_, rfl, .bool false⟩
  | boolean => exact ⟨_, rfl, isTruth_boolTruth value fun postgres => held.boolean postgres kind⟩
  | json => exact ⟨_, rfl, isTruth_jsonTruth value⟩
  | number =>
    refine ⟨((operand.expr.cast .double).orElse 0).ne 0, ?_, ?_⟩
    · unfold Site.toNumberOrZero Site.toNumber
      rw [kind]
      rfl
    · exact isTruth_number value (fun postgres => held.number postgres kind)
        fun sqlite => fragment_ne_bool sqlite _
  | text =>
    obtain ⟨cs, lower⟩ := answers_lower value fun postgres => held.text postgres kind
    exact ⟨_, rfl, .memberTexts ["", "null"] true lower⟩
  | datetime => exact ⟨_, rfl, .nullTest true value⟩
  | unknown =>
    refine ⟨_, rfl, ?_⟩
    obtain ⟨job, ⟨dialect, placement⟩, operation⟩ := site
    cases dialect with
    | postgres => exact isTruth_unknownTruth_postgres placement _
    | sqlite => exact isTruth_unknownTruth_sqlite same placement _

end

theorem exists_fragment_text (row : Row) (found : literalKind? sql = some .text) :
    ∃ cs, row.fragment sql = .text cs := by
  unfold literalKind? at found
  unfold Row.fragment
  cases null : Sql.isNullLiteral sql with
  | true =>
    rw [null] at found
    cases found
  | false =>
    rw [null] at found
    cases number : Sql.numberLiteral? sql with
    | some decimal =>
      rw [number] at found
      cases found
    | none =>
      rw [number] at found
      cases text : Sql.textLiteral? sql with
      | some content => exact ⟨content.toList, rfl⟩
      | none =>
        rw [text] at found
        cases truth : Sql.boolLiteral? sql with
        | some b =>
          rw [truth] at found
          cases found
        | none =>
          rw [truth] at found
          cases found

theorem literalKind?_cases (found : literalKind? sql = some kind) :
    kind = .blank ∨ kind = .number ∨ kind = .text ∨ kind = .boolean := by
  unfold literalKind? at found
  split at found
  · cases found
    exact .inl rfl
  · split at found
    · cases found
      exact .inr (.inl rfl)
    · cases found
      split
      · exact .inl rfl
      · exact .inr (.inr (.inl rfl))
    · cases found
      exact .inr (.inr (.inr rfl))
    · cases found

theorem Database.holds_of_literalKind? (db : Database) (found : literalKind? sql = some kind) :
    db.Holds ⟨sql, kind, true, .unknown, none⟩ := by
  have known : db.toRow.Holds ⟨sql, kind, true, .unknown, none⟩ :=
    SheetSql.holds_of_literalKind? found
  rcases literalKind?_cases found with rfl | rfl | rfl | rfl
  · exact ⟨nofun, nofun, nofun⟩
  · exact ⟨fun _ _ => known, nofun, nofun⟩
  · exact ⟨nofun, nofun, fun _ _ => .inr (exists_fragment_text db.toRow found)⟩
  · refine ⟨nofun, fun postgres _ => ?_, nofun⟩
    unfold Row.Holds at known
    dsimp only at known ⊢
    rw [postgres] at known
    cases value : db.fragment sql with
    | null => exact .inl rfl
    | bool b => exact .inr ⟨b, rfl⟩
    | int _ | real _ | text _ | other _ =>
      rw [value] at known
      cases known

theorem Database.holds_classify {db : Database}
    (held : (Operand.classify job sql hint).isLiteral = false →
      db.Holds (.classify job sql hint)) : db.Holds (.classify job sql hint) := by
  cases found : literalKind? sql with
  | some kind =>
    have operand : Operand.classify job sql hint = ⟨sql, kind, true, .unknown, none⟩ := by
      rw [Operand.classify, found]
    rw [operand]
    exact db.holds_of_literalKind? found
  | none => exact held (isLiteral_classify found)

structure Database.Suits (db : Database) (call : Call) : Prop where
  dialect : db.dialect = call.dialect
  held : ∀ operand ∈ call.operands, operand.isLiteral = false → db.Holds operand

theorem Database.Suits.holds {db : Database} {call : Call} (suits : db.Suits call)
    {operand : Operand} (member : operand ∈ call.operands) : db.Holds operand := by
  have held := suits.held operand member
  obtain ⟨i, given, rfl⟩ := List.mem_mapIdx.1 member
  exact Database.holds_classify held

end SheetSql
