import SheetSql.Proofs.Lexical.Render
import SheetSql.Proofs.Query.Cells
import SheetSql.Proofs.Query.Logic
import SheetSql.Proofs.Typing.Comparison

namespace SheetSql

/-! Tests for being equal. -/

open Coerce Database

/--
The value of an operand has the type of its kind, also where it is a moment or JSON. On SQLite a
column of JSON holds anything but bytes.
-/
structure Database.Stores (db : Database) (operand : Operand) : Prop extends db.Holds operand where
  datetime : db.dialect = .postgres → operand.kind = .datetime →
    db.fragment operand.sql = .null ∨ ∃ cs, db.fragment operand.sql = .other cs
  json : db.dialect = .postgres → operand.kind = .json →
    db.fragment operand.sql = .null ∨ (db.jsonOf (db.fragment operand.sql)).isSome = true
  noBytes : db.dialect = .sqlite → operand.kind = .json →
    ∀ cs, db.fragment operand.sql ≠ .other cs

theorem Database.stores_classify {db : Database} (found : literalKind? sql = some kind)
    (hint : Option Hint) : db.Stores (.classify job sql hint) := by
  have operand : Operand.classify job sql hint = ⟨sql, kind, true, .unknown, none⟩ := by
    rw [Operand.classify, found]
  rw [operand]
  refine ⟨db.holds_of_literalKind? found, ?_, ?_, ?_⟩
  all_goals
    intro _ other
    rcases literalKind?_cases found with rfl | rfl | rfl | rfl <;> cases other

theorem Value.castWhole_ne_null {v : Value} (filled : v ≠ .null) : v.castWhole ≠ .null := by
  cases v with
  | null => exact absurd rfl filled
  | bool _ | int _ | real _ | text _ | other _ => exact Value.noConfusion

theorem Value.exists_holds {dialect : Dialect} {v : Value}
    (held : dialect = .postgres → v = .null ∨ ∃ b, v = .bool b) :
    ∃ truth, v.holds? dialect = some truth := by
  cases dialect with
  | postgres => rcases held rfl with rfl | ⟨b, rfl⟩ <;> exact ⟨_, rfl⟩
  | sqlite => cases v <;> exact ⟨_, rfl⟩

theorem Value.exists_same_ofBool (dialect : Dialect) (a b : Bool) :
    ∃ t, (Value.ofBool dialect a).same? dialect (.ofBool dialect b) = some (some t) := by
  cases dialect with
  | postgres => exact ⟨a == b, rfl⟩
  | sqlite => exact exists_same_sqlite Value.noConfusion Value.noConfusion

section

variable {db : Database} {scope : Scope} {e : Expr} {v : Value}

theorem gives_castText (value : e.Answers db scope (.value v)) :
    (e.cast .text).Gives db scope (Value.IsTextOrNull db.dialect) := by
  refine ⟨_, answers_castText value, ?_⟩
  by_cases null : v = .null
  · rw [null]
    exact .inl rfl
  · obtain ⟨cs, shown⟩ := Value.exists_castText null db.shown
    rw [shown]
    exact Value.isTextOrNull_text db.dialect cs

theorem gives_boolText (value : e.Answers db scope (.value v)) {truth : Option Bool}
    (counts : v.holds? db.dialect = some truth) :
    (Expr.caseWhen [⟨e, .text "true"⟩, ⟨e.not, .text "false"⟩] none).Gives db scope
      (Value.IsTextOrNull db.dialect) := by
  have opposite := value.not counts
  suffices chosen : ∃ w, answerBranches db scope (answerOptional db scope none)
      [⟨e, .text "true"⟩, ⟨e.not, .text "false"⟩] = some (.value w) ∧
        w.IsTextOrNull db.dialect by
    obtain ⟨w, chosen, text⟩ := chosen
    exact ⟨w, .caseWhen chosen, text⟩
  rw [answerBranches_cons value counts,
    answerBranches_cons opposite (Value.holds?_ofTruth db.dialect _), answerBranches,
    answerOptional]
  cases truth with
  | none => exact ⟨.null, rfl, .inl rfl⟩
  | some b =>
    cases b with
    | true =>
      have text : (Expr.text "true").Answers db scope _ := .text "true"
      exact ⟨_, text, Value.isTextOrNull_text db.dialect _⟩
    | false =>
      have text : (Expr.text "false").Answers db scope _ := .text "false"
      exact ⟨_, text, Value.isTextOrNull_text db.dialect _⟩

theorem gives_numberText_sqlite (sqlite : db.dialect = .sqlite)
    (value : e.Answers db scope (.value v)) :
    (numberText .sqlite e).Gives db scope (Value.IsTextOrNull db.dialect) := by
  have whole : (e.cast .integer).Answers db scope (.value v.castWhole) := by
    refine .cast value ?_
    unfold Database.cast
    rw [sqlite]
  have compared : ∃ truth, v.same? .sqlite v.castWhole = some truth := by
    by_cases null : v = .null
    · rw [null]
      exact ⟨none, rfl⟩
    · obtain ⟨t, same⟩ := Value.exists_same_sqlite null (Value.castWhole_ne_null null)
      exact ⟨some t, same⟩
  obtain ⟨truth, compared⟩ := compared
  rw [← sqlite] at compared
  -- A null is not equal to its integer, and then its text is null as well.
  have test : (e.eq (e.cast .integer)).Answers db scope (.value (.ofTruth db.dialect truth)) := by
    refine .binary value whole fun _ => ?_
    change ((v.same? db.dialect v.castWhole).map _).map _ = _
    rw [compared]
    rfl
  refine gives_caseWhen ?_ ?_
  · simp only [List.forall_mem_cons]
    exact ⟨⟨⟨truth, test⟩, gives_castText whole⟩, nofun⟩
  · rw [answerOptional]
    exact gives_castText value

theorem gives_datetimeText_postgres (value : e.Answers db scope (.value v))
    (moment : v = .null ∨ ∃ cs, v = .other cs) :
    (datetimeText .postgres e).Gives db scope (Value.IsTextOrNull db.dialect) := by
  rcases moment with rfl | ⟨cs, rfl⟩
  · have wall : (e.atTimeZone (.text "UTC")).Answers db scope (.value .null) :=
      .atTimeZone value (.text "UTC") rfl
    exact ⟨.null, .call (by decide) (.cons wall (.cons (.text isoTemplate) .nil)) rfl, .inl rfl⟩
  · have wall : (e.atTimeZone (.text "UTC")).Answers db scope
        (.value (.other (db.wall cs "UTC".toList))) := .atTimeZone value (.text "UTC") rfl
    exact ⟨_, .call (by decide) (.cons wall (.cons (.text isoTemplate) .nil)) rfl,
      Value.isTextOrNull_text db.dialect _⟩

theorem gives_datetimeText_sqlite (sqlite : db.dialect = .sqlite)
    (value : e.Answers db scope (.value v)) :
    (datetimeText .sqlite e).Gives db scope (Value.IsTextOrNull db.dialect) :=
  gives_any sqlite (.call (by decide) (.cons (.text isoOutput) (.cons value .nil)) rfl)

end

section

variable {db : Database} {scope : Scope} {site : Site} (same : db.dialect = site.target.dialect)
  {operand : Operand} (stored : db.Stores operand) {e : Expr}

include same stored

theorem gives_toText_postgres (postgres : db.dialect = .postgres) (filled : operand.kind ≠ .blank)
    (found : site.toText operand = .ok e) :
    e.Gives db scope (Value.IsTextOrNull db.dialect) := by
  have value : operand.expr.Answers db scope (.value (db.fragment operand.sql)) := .fragment _
  unfold Site.toText at found
  rw [← same, postgres] at found
  cases kind : operand.kind with
  | blank => exact absurd kind filled
  | text =>
    rw [kind] at found
    cases found
    rcases stored.text postgres kind with null | ⟨cs, text⟩
    · exact ⟨_, value, .inl null⟩
    · rw [text] at value
      exact ⟨_, value, Value.isTextOrNull_text db.dialect cs⟩
  | json =>
    rw [kind] at found
    dsimp only at found
    have cell := stored.json postgres kind
    split at found
    · cases found
      exact gives_jsonJoin_postgres value cell ", "
    · split at found
      · cases found
      · cases found
        exact gives_jsonText_postgres value cell
  | boolean =>
    rw [kind] at found
    cases found
    obtain ⟨truth, counts⟩ := Value.exists_holds fun _ => stored.boolean postgres kind
    exact gives_boolText value counts
  | number =>
    rw [kind] at found
    dsimp only at found
    split at found
    · cases found
      exact ⟨_, .text _, Value.isTextOrNull_text db.dialect _⟩
    · cases found
      exact gives_castText value
  | datetime =>
    rw [kind] at found
    cases found
    exact gives_datetimeText_postgres value (stored.datetime postgres kind)
  | unknown =>
    rw [kind] at found
    cases found
    exact gives_castText value

theorem gives_toText_sqlite (sqlite : db.dialect = .sqlite)
    (found : site.toText operand = .ok e) :
    e.Gives db scope (Value.IsTextOrNull db.dialect) := by
  have value : operand.expr.Answers db scope (.value (db.fragment operand.sql)) := .fragment _
  unfold Site.toText at found
  rw [← same, sqlite] at found
  cases kind : operand.kind with
  | blank | text =>
    rw [kind] at found
    cases found
    exact gives_any sqlite value
  | json =>
    rw [kind] at found
    dsimp only at found
    split at found
    · cases found
      exact gives_jsonJoin_sqlite sqlite value (stored.noBytes sqlite kind) ", "
    · split at found
      · cases found
      · cases found
        exact gives_jsonText_sqlite sqlite value
  | boolean =>
    rw [kind] at found
    cases found
    obtain ⟨truth, counts⟩ := Value.exists_holds fun postgres =>
      absurd (sqlite.symm.trans postgres) Dialect.noConfusion
    exact gives_boolText value counts
  | number =>
    rw [kind] at found
    dsimp only at found
    split at found
    · cases found
      exact ⟨_, .text _, Value.isTextOrNull_text db.dialect _⟩
    · cases found
      exact gives_numberText_sqlite sqlite value
  | datetime =>
    rw [kind] at found
    cases found
    exact gives_datetimeText_sqlite sqlite value
  | unknown =>
    rw [kind] at found
    cases found
    exact gives_castText value

theorem gives_toText (filled : operand.kind ≠ .blank) (found : site.toText operand = .ok e) :
    e.Gives db scope (Value.IsTextOrNull db.dialect) := by
  cases dialect : site.target.dialect with
  | postgres => exact gives_toText_postgres same stored (same.trans dialect) filled found
  | sqlite => exact gives_toText_sqlite same stored (same.trans dialect) found

theorem gives_toTextOrEmpty (found : site.toTextOrEmpty operand = .ok e) :
    e.Gives db scope (Value.IsText db.dialect) := by
  unfold Site.toTextOrEmpty at found
  split at found
  · cases found
    exact ⟨_, .text "", Value.isText_text db.dialect _⟩
  · next filled =>
      have kind : operand.kind ≠ .blank := fun blank => filled (beq_iff_eq.2 blank)
      obtain ⟨shown, text, rest⟩ := bind_eq_ok found
      cases rest
      obtain ⟨v, value, fine⟩ := gives_toText same stored kind text
      refine ⟨_, answers_orElse_value value (.text ""), ?_⟩
      rcases fine with rfl | isText
      · exact Value.isText_text db.dialect _
      · rwa [if_neg isText.1]

theorem gives_toNumber (number : operand.isNumberLike = true)
    (found : site.toNumber operand = .ok e) : e.Gives db scope Value.IsNumberOrNull := by
  have value : operand.expr.Answers db scope (.value (db.fragment operand.sql)) := .fragment _
  unfold Operand.isNumberLike at number
  unfold Site.toNumber at found
  rw [← same] at found
  cases kind : operand.kind with
  | number =>
    rw [kind] at found
    cases found
    obtain ⟨w, real, isNumber⟩ := Value.exists_castReal
      (fun postgres => stored.number postgres kind) fun sqlite => fragment_ne_bool sqlite _
    exact ⟨w, .cast value (congrArg (Option.map Datum.value) real), isNumber⟩
  | json =>
    rw [kind] at found
    obtain ⟨_, -, found⟩ := bind_eq_ok found
    cases found
    cases dialect : db.dialect with
    | postgres => exact gives_jsonNumber_postgres value (stored.json dialect kind) dialect
    | sqlite => exact gives_jsonNumber_sqlite dialect value (stored.noBytes dialect kind)
  | blank | boolean | text | datetime | unknown =>
    rw [kind] at number
    cases number

theorem gives_toNumberOrZero (number : operand.isNumberLike = true)
    (found : site.toNumberOrZero operand = .ok e) :
    e.Gives db scope fun v => v.number?.isSome = true := by
  obtain ⟨shown, converted, rest⟩ := bind_eq_ok found
  cases rest
  obtain ⟨v, value, isNumber⟩ := gives_toNumber same stored number converted
  exact exists_orElse_zero value isNumber

end

/--
A test and its opposite have answers in a row, which are true and false or false and true. Where
the test needs a query and there can be none, both are refused.
-/
def Site.Decides (site : Site) (db : Database) (test : Bool → Except Error Expr) : Prop :=
  (∃ error, site.Refuses error ∧ ∀ negated, test negated = .error error) ∨
    ∃ equal differs t, test false = .ok equal ∧ test true = .ok differs ∧
      equal.Answers db .empty (.value (.ofBool db.dialect t)) ∧
      differs.Answers db .empty (.value (.ofBool db.dialect !t))

section

variable {db : Database} {site : Site} {left right : Operand}

theorem decides_sides
    (refuses : ∀ {operand error}, coerce operand = .error error → site.Refuses error)
    (first : ∀ {e}, coerce left = .ok e → e.Gives db .empty good)
    (second : ∀ {e}, coerce right = .ok e → e.Gives db .empty good)
    (comparable : ∀ {a b}, good a → good b → ∃ t, a.same? db.dialect b = some (some t)) :
    site.Decides db fun negated => Site.sides coerce (Site.equalOp negated) left right := by
  unfold Site.sides
  cases one : coerce left with
  | error error => exact .inl ⟨error, refuses one, fun _ => rfl⟩
  | ok x =>
    cases other : coerce right with
    | error error => exact .inl ⟨error, refuses other, fun _ => rfl⟩
    | ok y =>
      obtain ⟨a, leftValue, fine⟩ := first one
      obtain ⟨b, rightValue, fine'⟩ := second other
      obtain ⟨t, equal, differs⟩ :=
        answers_compare leftValue rightValue (comparable fine fine')
      exact .inr ⟨x.eq y, x.ne y, t, rfl, rfl, equal, differs⟩

variable (same : db.dialect = site.target.dialect) (first : db.Stores left)
  (second : db.Stores right)

include same first second

theorem decides_texts :
    site.Decides db fun negated =>
      Site.sides site.toTextOrEmpty (Site.equalOp negated) left right :=
  decides_sides Site.refuses_toTextOrEmpty (gives_toTextOrEmpty same first)
    (gives_toTextOrEmpty same second) Value.exists_same_of_isText

theorem decides_truths :
    site.Decides db fun negated => Site.sides site.toBool (Site.equalOp negated) left right := by
  have gives : ∀ {operand e}, db.Stores operand → site.toBool operand = .ok e →
      e.Gives db .empty fun v => ∃ b, v = .ofBool db.dialect b := by
    intro operand e stored found
    have truth : ∃ e, site.toBool operand = .ok e ∧ e.IsTruth db .empty :=
      isTruth_toBool site same stored.toHolds
    obtain ⟨_, again, b, value⟩ := truth
    rw [found] at again
    cases again
    exact ⟨_, value, b, rfl⟩
  refine decides_sides Site.refuses_toBool (gives first) (gives second) ?_
  rintro _ _ ⟨a, rfl⟩ ⟨b, rfl⟩
  exact Value.exists_same_ofBool db.dialect a b

theorem decides_numbers (both : left.isNumberLike = true ∧ right.isNumberLike = true) :
    site.Decides db fun negated =>
      Site.sides site.toNumberOrZero (Site.equalOp negated) left right :=
  decides_sides Site.refuses_toNumberOrZero (gives_toNumberOrZero same first both.1)
    (gives_toNumberOrZero same second both.2) Value.exists_same_of_number

theorem decides_equal (notMoments : left.equalAsMoments right = false) :
    site.Decides db fun negated => site.equal negated left right := by
  simp only [Site.equal_eq_sides]
  unfold Site.equalSide
  split
  · exact decides_texts same first second
  · next noText =>
      split
      · next moments =>
          -- The only branch that does not decide is the one that is ruled out.
          rw [Operand.equalAsMoments, Bool.eq_false_of_not_eq_true noText, moments] at notMoments
          cases notMoments
      · split
        · exact decides_truths same first second
        · split
          · next both => exact decides_numbers same first second (Bool.and_eq_true_iff.1 both)
          · exact decides_texts same first second

end

/--
Which operand comes first has no part in a comparison, and being equal is the opposite of being
different: the two tests have the same sides, and outside of moments exactly one of them is true in
a row, whatever it holds. All blanks are the same to an operand, in whatever way they are spelled.
-/
theorem equality_is_symmetric_and_decided (site : Site) (left right : Operand) :
    (∀ negated, Mirrored (Site.equalOp negated) (Site.equalOp negated)
      (site.equal negated left right) (site.equal negated right left)) ∧
    Mirrored .lt .gt (site.compare .lt left right) (site.compare .gt right left) ∧
    Mirrored .le .ge (site.compare .le left right) (site.compare .ge right left) ∧
    SameSides .eq .ne (site.equal false left right) (site.equal true left right) ∧
    (∀ db : Database, db.dialect = site.target.dialect → db.Stores left → db.Stores right →
      left.equalAsMoments right = false →
      site.Decides db fun negated => site.equal negated left right) ∧
    ∀ (negated : Bool) (job job' : Job) (sql sql' : String) (hint hint' : Option Hint),
      SpellsBlank sql.toList → SpellsBlank sql'.toList →
      site.equal negated left (.classify job sql hint) =
        site.equal negated left (.classify job' sql' hint') := by
  refine ⟨fun negated => ?_, ?_, ?_, ?_, ?_, ?_⟩
  · rw [Site.equal_eq_sides, Site.equal_eq_sides, Site.equalSide_comm site right left]
    exact mirrored_sides Site.refuses_equalSide _ _ left right
  · rw [Site.compare_eq_sides, Site.compare_eq_sides, Site.orderSide_comm site right left]
    exact mirrored_sides Site.refuses_orderSide _ _ left right
  · rw [Site.compare_eq_sides, Site.compare_eq_sides, Site.orderSide_comm site right left]
    exact mirrored_sides Site.refuses_orderSide _ _ left right
  · rw [Site.equal_eq_sides, Site.equal_eq_sides]
    exact sameSides_sides _ _ left right
  · intro db same first second notMoments
    exact decides_equal same first second notMoments
  · intro negated job job' sql sql' hint hint' spelled spelled'
    have kind := (classify_of_literalKind? job spelled.literalKind? hint).2
    have kind' := (classify_of_literalKind? job' spelled'.literalKind? hint').2
    rw [equal_blank site negated left kind, equal_blank site negated left kind']

def tagsJob : Job := .ofCatalog (.ofFields [.ofStorage "fld1" "tags" .json]) ⟨0, 0⟩

def tagsSite : Site := ⟨tagsJob, ⟨.postgres, .select⟩, .equal⟩

def tagsOperand : Operand := .classify tagsJob "\"tags\"" none

def newOperand : Operand := .classify tagsJob "('new')" none

def tagsRow : Row where
  dialect := .postgres
  value := fun _ => .null
  isInteger := fun _ => false
  shown := fun _ => []

theorem tagsRow_stores : (Database.plain tagsRow).Stores tagsOperand := by
  have absent : (Database.plain tagsRow).fragment tagsOperand.sql = .null := rfl
  exact ⟨⟨fun _ _ => .inl absent, fun _ _ => .inl absent, fun _ _ => .inl absent⟩,
    fun _ _ => .inl absent, fun _ _ => .inl absent, nofun⟩

theorem equality_is_symmetric_and_decided_tags :
    (Database.plain tagsRow).Stores tagsOperand ∧ (Database.plain tagsRow).Stores newOperand ∧
      tagsOperand.equalAsMoments newOperand = false ∧
      SpellsBlank "(nUll )".toList ∧ SpellsBlank "('')".toList ∧
      (∃ equal differs t, tagsSite.equal false tagsOperand newOperand = .ok equal ∧
        tagsSite.equal true tagsOperand newOperand = .ok differs ∧
        equal.Answers (Database.plain tagsRow) .empty (.value (.bool t)) ∧
        differs.Answers (Database.plain tagsRow) .empty (.value (.bool !t))) ∧
      tagsSite.equal false tagsOperand (.classify tagsJob "(nUll )" none) =
        tagsSite.equal false tagsOperand (.classify tagsJob "('')" none) := by
  have constant : (Database.plain tagsRow).Stores newOperand :=
    Database.stores_classify (show literalKind? "('new')" = some .text by rfl) none
  have notMoments : tagsOperand.equalAsMoments newOperand = false := by decide
  have null : SpellsBlank "(nUll )".toList :=
    .brackets (.after (show Text.isBlank ' ' = true by decide)
      (.null (show Text.sameLetters "nUll".toList "NULL".toList = true by decide)))
  have quotes : SpellsBlank "('')".toList := .brackets .emptyText
  obtain ⟨-, -, -, -, decides, blanks⟩ :=
    equality_is_symmetric_and_decided tagsSite tagsOperand newOperand
  refine ⟨tagsRow_stores, constant, notMoments, null, quotes, ?_,
    blanks false tagsJob tagsJob "(nUll )" "('')" none none null quotes⟩
  rcases decides (Database.plain tagsRow) rfl tagsRow_stores constant notMoments with
    refused | decided
  · obtain ⟨error, ⟨generated, -⟩, -⟩ := refused
    cases generated
  · exact decided

end SheetSql
