import SheetSql.Proofs.Query.Truth

namespace SheetSql

/-! What queries make of JSON cells. -/

open Coerce Database

namespace Value

def IsTextOrNull (dialect : Dialect) (v : Value) : Prop := v = .null ∨ v.IsText dialect

def IsNumberOrNull (v : Value) : Prop := v = .null ∨ v.number?.isSome = true

theorem isTextOrNull_sqlite (v : Value) : v.IsTextOrNull .sqlite := by
  by_cases null : v = .null
  · exact .inl null
  · exact .inr ⟨null, nofun⟩

theorem isTextOrNull_text (dialect : Dialect) (cs : List Char) :
    (Value.text cs).IsTextOrNull dialect := .inr (isText_text dialect cs)

theorem exists_sum (numbers : ∀ v ∈ values, v.IsNumberOrNull) :
    ∃ total, sum? values = some total ∧ total.IsNumberOrNull := by
  have kept : ∀ v ∈ values.filter (· ≠ .null), v.number?.isSome = true := by
    intro v member
    obtain ⟨among, other⟩ := List.mem_filter.1 member
    exact (numbers v among).resolve_left (of_decide_eq_true other)
  unfold sum?
  cases known : values.filter (· ≠ .null) with
  | nil => exact ⟨.null, rfl, .inl rfl⟩
  | cons first rest =>
    rw [known, List.forall_mem_cons] at kept
    obtain ⟨total, found, adds⟩ := Adds.foldlM (Adds.single kept.1) kept.2
    exact ⟨total, found, .inr (by rw [adds.number]; rfl)⟩

end Value

theorem Json.exists_object {json : Json} (object : json.className = "object") :
    ∃ members, json = .object members := by
  cases json with
  | object members => exact ⟨members, rfl⟩
  | bool b => cases b <;> exact absurd object (by decide)
  | number decimal =>
    rw [className] at object
    split at object <;> exact absurd object (by decide)
  | null | text _ | array _ =>
    rw [className] at object
    exact absurd object (by decide)

theorem Json.stored_ne_bool (write : Json → List Char) (json : Json) (b : Bool) :
    json.stored write ≠ .bool b := by
  cases json with
  | number decimal =>
    rw [stored]
    split <;> exact Value.noConfusion
  | null | bool _ | text _ | array _ | object _ => exact Value.noConfusion

def Expr.Gives (db : Database) (scope : Scope) (good : Value → Prop) (e : Expr) : Prop :=
  ∃ v, e.Answers db scope (.value v) ∧ good v

section

variable {db : Database} {scope : Scope} {e : Expr} {good : Value → Prop}

theorem gives_coalesce (null : good .null) (each : ∀ arg ∈ args, arg.Gives db scope good) :
    (Expr.coalesce args).Gives db scope good := by
  induction args with
  | nil => exact ⟨.null, .coalesceNil, null⟩
  | cons first rest ih =>
    obtain ⟨v, value, fine⟩ := each first List.mem_cons_self
    obtain ⟨w, others, fine'⟩ := ih fun arg member => each arg (List.mem_cons_of_mem _ member)
    by_cases absent : v = .null
    · refine ⟨w, .coalesce value (fun _ => others) fun filled => ?_, fine'⟩
      rw [Datum.isNull, decide_eq_true absent] at filled
      cases filled
    · refine ⟨v, .coalesce value (fun missing => ?_) fun _ => rfl, fine⟩
      exact absurd (of_decide_eq_true missing) absent

theorem gives_caseWhen (each : ∀ branch ∈ branches,
      (∃ truth, branch.condition.Answers db scope (.value (.ofTruth db.dialect truth))) ∧
        branch.value.Gives db scope good)
    (last : ∃ v, answerOptional db scope otherwise = some (.value v) ∧ good v) :
    (Expr.caseWhen branches otherwise).Gives db scope good := by
  suffices chosen : ∃ v, answerBranches db scope (answerOptional db scope otherwise) branches =
      some (.value v) ∧ good v by
    obtain ⟨v, chosen, fine⟩ := chosen
    exact ⟨v, .caseWhen chosen, fine⟩
  induction branches with
  | nil =>
    rw [answerBranches]
    exact last
  | cons branch rest ih =>
    obtain ⟨condition, value⟩ := branch
    obtain ⟨⟨truth, holds⟩, value⟩ := each _ List.mem_cons_self
    rw [answerBranches_cons holds (Value.holds?_ofTruth db.dialect truth)]
    split
    · exact value
    · exact ih fun other member => each other (List.mem_cons_of_mem _ member)

theorem gives_caseOf {subject : Expr} (value : subject.Answers db scope (.value v))
    (text : v = .null ∨ ∃ cs, v = .text cs)
    (each : ∀ branch ∈ branches, ∃ ds, branch.condition.Answers db scope (.value (.text ds)) ∧
      (v = .text ds → branch.value.Gives db scope good))
    (last : ∃ v, answerOptional db scope otherwise = some (.value v) ∧ good v) :
    (Expr.caseOf subject branches otherwise).Gives db scope good := by
  have compared : ∀ ds, ∃ truth, v.same? db.dialect (.text ds) = some truth ∧
      (truth = some true → v = .text ds) := by
    intro ds
    rcases text with rfl | ⟨cs, rfl⟩
    · exact ⟨none, rfl, nofun⟩
    · exact ⟨some (cs == ds), rfl, fun same => by rw [eq_of_beq (Option.some.inj same)]⟩
  suffices chosen : ∃ w, answerBranchesOf db scope v (answerOptional db scope otherwise)
      branches = some (.value w) ∧ good w by
    obtain ⟨w, chosen, fine⟩ := chosen
    exact ⟨w, .caseOf value chosen, fine⟩
  induction branches with
  | nil =>
    rw [answerBranchesOf]
    exact last
  | cons branch rest ih =>
    obtain ⟨condition, result⟩ := branch
    obtain ⟨ds, item, result⟩ := each _ List.mem_cons_self
    obtain ⟨truth, same, equal⟩ := compared ds
    rw [answerBranchesOf_cons item same]
    split
    next holds => exact result (equal holds)
    next => exact ih fun other member => each other (List.mem_cons_of_mem _ member)

theorem gives_subquery {function label : String} {arg value filter : Expr} {names : List String}
    {ordinality : Bool} {datum : Datum} {items : List Json} (source : arg.Answers db scope datum)
    (rows : db.rowsOf function datum = some items)
    (filtered : ∀ i, ∀ item ∈ items, ∃ truth, filter.Answers db
      (db.rowScope function label names ordinality i item) (.value (.ofTruth db.dialect truth)))
    (column : ∀ kept : List Scope,
      (∀ row ∈ kept, ∃ i, ∃ item ∈ items,
        row = db.rowScope function label names ordinality i item ∧
          filter.Answers db row (.value (.ofTruth db.dialect (some true)))) →
      ∃ v, answerColumn db kept value = some (.value v) ∧ good v) :
    Expr.Gives db scope good
      (.subquery
        { Select.value value with
          source := some (.function (.call function [arg]) ordinality label names)
          filter := some filter }) := by
  have filter_eq : ∀ i, ∀ item ∈ items, ∃ truth,
      filter.Answers db (db.rowScope function label names ordinality i item)
          (.value (.ofTruth db.dialect truth)) ∧
        answerFilter db (db.rowScope function label names ordinality i item) (some filter) =
          some (decide (truth = some true)) := by
    intro i item member
    obtain ⟨truth, holds⟩ := filtered i item member
    exact ⟨truth, holds, answerFilter_some holds (Value.holds?_ofTruth db.dialect truth)⟩
  have each : ∀ row ∈ items.mapIdx (db.rowScope function label names ordinality),
      ∃ b, answerFilter db row (some filter) = some b := by
    intro row member
    obtain ⟨i, given, rfl⟩ := List.mem_mapIdx.1 member
    obtain ⟨truth, -, kept⟩ := filter_eq i _ (List.getElem_mem given)
    exact ⟨_, kept⟩
  obtain ⟨kept, found, inside⟩ := exists_keep each
  -- A row that is kept is one of an element, and it has passed the filter.
  have rows_eq : ∀ row ∈ kept, ∃ i, ∃ item ∈ items,
      row = db.rowScope function label names ordinality i item ∧
        filter.Answers db row (.value (.ofTruth db.dialect (some true))) := by
    intro row member
    obtain ⟨among, true⟩ := inside row member
    obtain ⟨i, given, rfl⟩ := List.mem_mapIdx.1 among
    obtain ⟨truth, holds, kept⟩ := filter_eq i _ (List.getElem_mem given)
    rw [kept, Option.some_inj, decide_eq_true_iff] at true
    rw [true] at holds
    exact ⟨i, _, List.getElem_mem given, rfl, holds⟩
  obtain ⟨v, result, fine⟩ := column kept rows_eq
  exact ⟨v, .subquery source rows found result, fine⟩

theorem exists_scalars {values : List Value}
    (each : List.Forall₂ (Expr.Answers db row) args (values.map .value)) :
    (do (← answerEach db row args).mapM Datum.scalar?) = some values := by
  rw [answerEach_of_forall₂ each]
  exact Engine.mapM_scalar? values

section

variable {rows : List Scope} {function : String} {args : List Expr} {form : List Value → Prop}
  (each : ∀ row ∈ rows, ∃ values,
    List.Forall₂ (Expr.Answers db row) args (values.map .value) ∧ form values)
  (total : ∀ table : List (List Value), (∀ values ∈ table, form values) →
    ∃ v, db.aggregate function table = some v ∧ good v)

include each total

theorem exists_answerColumn :
    ∃ v, answerColumn db rows (.call function args) = some (.value v) ∧ good v := by
  have scalars : ∀ row ∈ rows, ∃ values,
      (do (← answerEach db row args).mapM Datum.scalar?) = some values ∧ form values := by
    intro row member
    obtain ⟨values, found, fine⟩ := each row member
    exact ⟨values, exists_scalars found, fine⟩
  obtain ⟨table, found, inside⟩ := exists_mapM_some scalars
  obtain ⟨v, result, fine⟩ := total table inside
  refine ⟨v, ?_, fine⟩
  rw [answerColumn, found]
  change (db.aggregate function table).map Datum.value = _
  rw [result]
  rfl

theorem exists_answerColumn_sorted {key : Expr}
    (keys : ∀ row ∈ rows, ∃ n, key.Answers db row (.value (.int n))) :
    ∃ v, answerColumn db rows (.aggregate function args [key]) = some (.value v) ∧ good v := by
  have scalars : ∀ row ∈ rows, ∃ pair : Int × List Value,
      (do
        let order ← (← key.answer db row).int?
        return (order, ← (← answerEach db row args).mapM Datum.scalar?)) = some pair ∧
        form pair.2 := by
    intro row member
    obtain ⟨n, order⟩ := keys row member
    obtain ⟨values, found, fine⟩ := each row member
    refine ⟨(n, values), ?_, fine⟩
    rw [order, answerEach_of_forall₂ found]
    change (((values.map Datum.value).mapM Datum.scalar?).bind fun values => some (n, values)) = _
    rw [Engine.mapM_scalar?]
    rfl
  obtain ⟨table, found, inside⟩ := exists_mapM_some scalars
  have ordered : ∀ values ∈ sorted table, form values := by
    intro values member
    obtain ⟨pair, among, rfl⟩ := List.mem_map.1 member
    exact inside pair (List.mem_mergeSort.1 among)
  obtain ⟨v, result, fine⟩ := total (sorted table) ordered
  refine ⟨v, ?_, fine⟩
  rw [answerColumn, found]
  change (db.aggregate function (sorted table)).map Datum.value = _
  rw [result]
  rfl

end

theorem exists_sum_rows {table : List (List Value)}
    (each : ∀ values ∈ table, ∃ v, values = [v] ∧ v.IsNumberOrNull) :
    ∃ v, db.aggregate "SUM" table = some v ∧ v.IsNumberOrNull := by
  have heads : ∀ values ∈ table, ∃ v, List.head? values = some v ∧ v.IsNumberOrNull := by
    intro values member
    obtain ⟨v, rfl, number⟩ := each values member
    exact ⟨v, rfl, number⟩
  obtain ⟨numbers, found, inside⟩ := exists_mapM_some heads
  obtain ⟨total, sum, number⟩ := Value.exists_sum inside
  refine ⟨total, ?_, number⟩
  change (table.mapM List.head?).bind Value.sum? = _
  rw [found]
  exact sum

theorem isTextOrNull_joined (dialect : Dialect) (items : List (List Char × List Char)) :
    (Value.joined items).IsTextOrNull dialect := by
  cases items with
  | nil => exact .inl rfl
  | cons first rest => exact Value.isTextOrNull_text dialect _

theorem exists_joined {function : String}
    (joins : function = "string_agg" ∨ function = "group_concat") {table : List (List Value)}
    (each : ∀ values ∈ table, ∃ a separator, values = [a, .text separator] ∧
      a.IsTextOrNull db.dialect) :
    ∃ v, db.aggregate function table = some v ∧ v.IsTextOrNull db.dialect := by
  have items : ∀ values ∈ table, ∃ item, db.item? values = some item ∧ True := by
    intro values member
    obtain ⟨a, separator, rfl, text⟩ := each values member
    unfold Database.item?
    cases dialect : db.dialect with
    | postgres =>
      rw [dialect] at text
      rcases text with rfl | ⟨-, text⟩
      · exact ⟨_, rfl, trivial⟩
      · obtain ⟨cs, rfl⟩ := text rfl
        exact ⟨_, rfl, trivial⟩
    | sqlite => cases a <;> exact ⟨_, rfl, trivial⟩
  obtain ⟨found, all, -⟩ := exists_mapM_some items
  refine ⟨.joined (found.filterMap id), ?_, isTextOrNull_joined db.dialect _⟩
  rcases joins with rfl | rfl
  · change (do return Value.joined ((← table.mapM db.item?).filterMap id)) = _
    rw [all]
    rfl
  · change (do return Value.joined ((← table.mapM db.item?).filterMap id)) = _
    rw [all]
    rfl

section

variable {v : Value} (value : e.Answers db scope (.value v))

include value

theorem answers_castJson_of_json (spelled : db.jsonOf v = some json) :
    (e.cast .jsonb).Answers db scope (.json json) := by
  refine .cast value ?_
  change db.castJson (.value v) = _
  rw [Engine.castJson, if_neg (Engine.ne_null_of_jsonOf spelled), spelled]
  rfl

theorem answers_asArray_of_json (spelled : db.jsonOf v = some json) :
    (asArray e).Answers db scope (.json (.array json.elements)) := by
  have found := answers_castJson_of_json value spelled
  have type : (jsonbType (e.cast .jsonb)).Answers db scope
      (.value (.text json.typeName.toList)) := .call (by decide) (.cons found .nil) rfl
  have test : ((jsonbType (e.cast .jsonb)).eq (.text "array")).Answers db scope
      (.value (.ofTruth db.dialect (some (json.typeName.toList == "array".toList)))) :=
    .binary type (.text "array") fun _ => rfl
  have wrapped : (Expr.call "jsonb_build_array" [e.cast .jsonb]).Answers db scope
      (.json (.array [json])) := .call (by decide) (.cons found .nil) rfl
  refine .caseWhen ?_
  rw [answerBranches_cons test (Value.holds?_ofTruth db.dialect _), answerBranches,
    answerOptional]
  cases json with
  | array items =>
    rw [Json.typeName, if_pos (by decide)]
    exact found
  | null | bool _ | number _ | text _ | object _ =>
    rw [Json.typeName, if_neg (by decide)]
    exact wrapped

variable (cell : v = .null ∨ (db.jsonOf v).isSome)

include cell

theorem answers_castJson :
    (e.cast .jsonb).Answers db scope (.value .null) ∨
      ∃ json, (e.cast .jsonb).Answers db scope (.json json) := by
  rcases cell with rfl | spelled
  · exact .inl (.cast value rfl)
  · obtain ⟨json, found⟩ := Option.isSome_iff_exists.1 spelled
    exact .inr ⟨json, answers_castJson_of_json value found⟩

theorem answers_asArray : ∃ items, (asArray e).Answers db scope (.json (.array items)) := by
  rcases cell with rfl | spelled
  · have null : (e.cast .jsonb).Answers db scope (.value .null) := .cast value rfl
    have type : (jsonbType (e.cast .jsonb)).Answers db scope (.value .null) :=
      .call (by decide) (.cons null .nil) rfl
    have test : ((jsonbType (e.cast .jsonb)).eq (.text "array")).Answers db scope
        (.value (.ofTruth db.dialect none)) := .binary type (.text "array") fun _ => rfl
    have wrapped : (Expr.call "jsonb_build_array" [e.cast .jsonb]).Answers db scope
        (.json (.array [.null])) := .call (by decide) (.cons null .nil) rfl
    refine ⟨[.null], .caseWhen ?_⟩
    rw [answerBranches_cons test (Value.holds?_ofTruth db.dialect none), if_neg nofun,
      answerBranches, answerOptional]
    exact wrapped
  · obtain ⟨json, found⟩ := Option.isSome_iff_exists.1 spelled
    exact ⟨_, answers_asArray_of_json value found⟩

end

section

variable {json : Json} (value : e.Answers db scope (.json json))

include value

theorem answers_jsonbType :
    (jsonbType e).Answers db scope (.value (.text json.typeName.toList)) :=
  .call (by decide) (.cons value .nil) rfl

omit value in
theorem gives_ofText? (found : e.Answers db scope (.ofText? cs?)) :
    e.Gives db scope (Value.IsTextOrNull db.dialect) := by
  cases cs? with
  | none => exact ⟨.null, found, .inl rfl⟩
  | some cs => exact ⟨.text cs, found, Value.isTextOrNull_text db.dialect cs⟩

theorem gives_jsonbMember (name : String) :
    (jsonbMember e name).Gives db scope (Value.IsTextOrNull db.dialect) :=
  gives_ofText? (.binary value (.text name) fun _ => rfl)

theorem gives_jsonbText : (jsonbText e).Gives db scope (Value.IsTextOrNull db.dialect) :=
  gives_ofText? (.binary value (.text "\x7b\x7d") fun _ => rfl)

theorem gives_title {last : Expr} (text : last.Gives db scope (Value.IsTextOrNull db.dialect)) :
    (Expr.coalesce [jsonbMember e "title", jsonbMember e "name", last]).Gives db scope
      (Value.IsTextOrNull db.dialect) := by
  refine gives_coalesce (.inl rfl) ?_
  simp only [List.forall_mem_cons]
  exact ⟨gives_jsonbMember value "title", gives_jsonbMember value "name", text, nofun⟩

theorem gives_elementText : (elementText e).Gives db scope (Value.IsTextOrNull db.dialect) := by
  have isObject : ((jsonbType e).eq (.text "object")).Answers db scope
      (.value (.ofTruth db.dialect (some (json.typeName.toList == "object".toList)))) :=
    .binary (answers_jsonbType value) (.text "object") fun _ => rfl
  have whole : (e.cast .text).Gives db scope (Value.IsTextOrNull db.dialect) :=
    ⟨.text (db.write json), .cast value rfl, Value.isTextOrNull_text db.dialect _⟩
  refine gives_caseWhen ?_ ?_
  · simp only [List.forall_mem_cons]
    exact ⟨⟨⟨_, isObject⟩, gives_title value whole⟩, nofun⟩
  · rw [answerOptional]
    exact gives_jsonbText value

end

theorem answers_element (db : Database) (i : Nat) (item : Json) :
    (Expr.column none "__v").Answers db
      (db.rowScope "jsonb_array_elements_text" "__el" ["__v"] false i item)
      (.ofText? (item.text? db.write)) := .column rfl

open Classical in
theorem answers_isNumericText (db : Database) (i : Nat) (item : Json) :
    (regexMatch (.column none "__v") numericText).Answers db
      (db.rowScope "jsonb_array_elements_text" "__el" ["__v"] false i item)
      (.value (.ofTruth db.dialect
        ((item.text? db.write).map fun cs => decide (numericText.Accepts cs)))) := by
  have text := answers_element db i item
  cases found : item.text? db.write with
  | none =>
    rw [found] at text
    exact .binary text (.text _) fun _ => rfl
  | some cs =>
    rw [found] at text
    exact answers_regexMatch (by rfl) text

section

variable {v : Value} (value : e.Answers db scope (.value v))
  (cell : v = .null ∨ (db.jsonOf v).isSome)

include value cell

theorem gives_jsonJoin_postgres (separator : String) :
    (jsonJoin .postgres (.text separator) e).Gives db scope (Value.IsTextOrNull db.dialect) := by
  obtain ⟨items, source⟩ := answers_asArray value cell
  have element : ∀ i item,
      (Expr.column none "__x").Answers db
        (db.rowScope "jsonb_array_elements" "__el" ["__x", "__n"] true i item) (.json item) :=
    fun i item => .column rfl
  refine gives_subquery source rfl ?_ fun kept rows => ?_
  · intro i item _
    exact ⟨_, .binary (answers_jsonbType (element i item)) (.text "null") fun _ => rfl⟩
  · refine exists_answerColumn_sorted ?_ (fun table each => exists_joined (.inl rfl) each) ?_
    · intro row member
      obtain ⟨i, item, -, rfl, -⟩ := rows row member
      obtain ⟨w, text, fine⟩ := gives_elementText (element i item)
      exact ⟨[w, .text separator.toList], .cons text (.cons (.cast (.text separator) rfl) .nil),
        w, separator.toList, rfl, fine⟩
    · intro row member
      obtain ⟨i, item, -, rfl, -⟩ := rows row member
      exact ⟨i + 1, .column rfl⟩

theorem gives_jsonText_postgres :
    (jsonText .postgres e).Gives db scope (Value.IsTextOrNull db.dialect) := by
  have null : ∀ {e : Expr}, e.Answers db scope (.value .null) →
      e.Gives db scope (Value.IsTextOrNull db.dialect) := fun found => ⟨.null, found, .inl rfl⟩
  rcases answers_castJson value cell with absent | ⟨json, found⟩
  · have type : (jsonbType (e.cast .jsonb)).Answers db scope (.value .null) :=
      .call (by decide) (.cons absent .nil) rfl
    have reach : ∀ op content, op = .jsonGet ∨ op = .jsonPath →
        (Expr.binary (e.cast .jsonb) op (.text content)).Gives db scope
          (Value.IsTextOrNull db.dialect) := by
      rintro op content (rfl | rfl)
      · exact null (.binary absent (.text content) fun _ => rfl)
      · exact null (.binary absent (.text content) fun _ => rfl)
    have plain := reach .jsonPath "\x7b\x7d" (.inr rfl)
    refine gives_caseOf type (.inl rfl) ?_ ?_
    · simp only [List.forall_mem_cons]
      refine ⟨⟨_, .text "object", fun _ => gives_coalesce (.inl rfl) ?_⟩,
        ⟨_, .text "null", fun _ => null .null⟩, nofun⟩
      simp only [List.forall_mem_cons]
      exact ⟨reach _ _ (.inl rfl), reach _ _ (.inl rfl), plain, nofun⟩
    · rw [answerOptional]
      exact plain
  · have plain := gives_jsonbText found
    refine gives_caseOf (answers_jsonbType found) (.inr ⟨_, rfl⟩) ?_ ?_
    · simp only [List.forall_mem_cons]
      exact ⟨⟨_, .text "object", fun _ => gives_title found plain⟩,
        ⟨_, .text "null", fun _ => null .null⟩, nofun⟩
    · rw [answerOptional]
      exact plain

open Classical in
theorem gives_jsonNumber_postgres (postgres : db.dialect = .postgres) :
    (jsonNumber .postgres "SUM" e).Gives db scope Value.IsNumberOrNull := by
  obtain ⟨items, source⟩ := answers_asArray value cell
  refine gives_subquery source rfl (fun i item _ => ⟨_, answers_isNumericText db i item⟩)
    fun kept rows => ?_
  refine exists_answerColumn ?_ fun table each => exists_sum_rows each
  intro row' member
  obtain ⟨i, item, -, rfl, holds⟩ := rows row' member
  have same := Value.ofTruth_inj
    (Datum.value.inj (Option.some.inj ((answers_isNumericText db i item).symm.trans holds)))
  obtain ⟨cs, found, accepted⟩ := Option.map_eq_some_iff.1 same
  obtain ⟨captures, accepted⟩ := of_decide_eq_true accepted
  obtain ⟨decimal, read⟩ := read?_of_numericText accepted
  have text := answers_element db i item
  rw [found] at text
  have real : (Value.text cs).castReal db.dialect = some (.real decimal.value) := by
    rw [postgres]
    change (do return Value.real (← Decimal.read? (Chars.strip Chars.isSpace cs)).value) = _
    rw [read]
    rfl
  refine ⟨[.real decimal.value], .cons (.cast text ?_) .nil, _, rfl, .inr rfl⟩
  exact congrArg (Option.map Datum.value) real

end

section

variable (sqlite : db.dialect = .sqlite)

include sqlite

section

variable {v : Value} (value : e.Answers db scope (.value v))

include value

theorem answers_jsonValid :
    (jsonValid e).Answers db scope (.value (.ofTruth db.dialect
      (if v = .null then none else some (db.jsonOf v).isSome))) := by
  refine .call (by decide) (.cons value .nil) ?_
  change some (Datum.value (if v = .null then .null else .ofBool .sqlite (db.jsonOf v).isSome)) = _
  rw [sqlite]
  split <;> rfl

theorem answers_asJson_of_json (spelled : db.jsonOf v = some json) :
    (asJson e).Answers db scope (.value v) ∧
      db.rowsOf "json_each" (.value v) = some json.children := by
  have filled := Engine.ne_null_of_jsonOf spelled
  refine ⟨.caseWhen ?_, ?_⟩
  · rw [answerBranches_cons (answers_jsonValid sqlite value) (Value.holds?_ofTruth db.dialect _),
      if_neg filled, spelled, Option.isSome_some, if_pos rfl]
    exact value
  · rw [Engine.rowsOf, if_neg filled, if_pos rfl, spelled]
    rfl

theorem exists_each (noBlob : ∀ cs, v ≠ .other cs) :
    ∃ w items, (asJson e).Answers db scope (.value w) ∧
      db.rowsOf "json_each" (.value w) = some items := by
  have valid := answers_jsonValid sqlite value
  have wrapped : (Expr.call "json_array" [e]).Answers db scope (.value (.text (db.wrap v))) := by
    refine .call (by decide) (.cons value .nil) ?_
    cases v with
    | other cs => exact absurd rfl (noBlob cs)
    | _ => rfl
  by_cases known : (db.jsonOf v).isSome
  · obtain ⟨json, found⟩ := Option.isSome_iff_exists.1 known
    exact ⟨v, json.children, answers_asJson_of_json sqlite value found⟩
  · obtain ⟨item, spelled⟩ := db.wrap_json v
    refine ⟨.text (db.wrap v), [item], .caseWhen ?_, ?_⟩
    · have fails : (if v = .null then none else some (db.jsonOf v).isSome) ≠ some true := by
        split
        · exact (Option.some_ne_none true).symm
        · exact fun same => known (Option.some.inj same)
      rw [answerBranches_cons valid (Value.holds?_ofTruth db.dialect _), if_neg fails,
        answerBranches, answerOptional]
      exact wrapped
    · have found : db.jsonOf (.text (db.wrap v)) = some (.array [item]) := spelled
      rw [Engine.rowsOf, if_neg Value.noConfusion, if_pos rfl, found]
      rfl

omit sqlite in
theorem exists_jsonExtract {json : Json} (spelled : db.jsonOf v = some json) (path : String)
    {found : Option Json} (leads : json.at? path.toList = some found) :
    ∃ w, (jsonExtract e path).Answers db scope (.value w) := by
  refine ⟨found.elim .null (Json.stored db.write),
    .call (by decide) (.cons value (.cons (.text path) .nil)) ?_⟩
  change ((db.withJson v fun json =>
    (json.at? path.toList).map fun found => found.elim .null (Json.stored db.write)).map
      Datum.value) = _
  rw [Database.withJson, if_neg (Engine.ne_null_of_jsonOf spelled), spelled, Option.bind_some,
    leads]
  rfl

theorem gives_any : e.Gives db scope (Value.IsTextOrNull db.dialect) :=
  ⟨v, value, sqlite ▸ Value.isTextOrNull_sqlite v⟩

theorem gives_record (spelled : db.jsonOf v = some json) :
    (Expr.coalesce [jsonExtract e "$.title", jsonExtract e "$.name", e]).Gives db scope
      (Value.IsTextOrNull db.dialect) := by
  obtain ⟨_, title⟩ := exists_jsonExtract value spelled "$.title" rfl
  obtain ⟨_, name⟩ := exists_jsonExtract value spelled "$.name" rfl
  refine gives_coalesce (.inl rfl) ?_
  simp only [List.forall_mem_cons]
  exact ⟨gives_any sqlite title, gives_any sqlite name, gives_any sqlite value, nofun⟩

theorem gives_jsonText_sqlite :
    (jsonText .sqlite e).Gives db scope (Value.IsTextOrNull db.dialect) := by
  have isNull : e.isNull.Answers db scope
      (.value (.ofTruth db.dialect (some (decide (v = .null))))) := by
    have test := Expr.Answers.nullTest false value
    rwa [Bool.bne_false] at test
  have invalid := (answers_jsonValid sqlite value).not (Value.holds?_ofTruth db.dialect _)
  cases spelled : db.jsonOf v with
  | none =>
    -- What is no JSON is its own text.
    rw [spelled] at invalid
    by_cases null : v = .null
    · refine ⟨.null, .caseWhen ?_, .inl rfl⟩
      rw [answerBranches_cons isNull (Value.holds?_ofTruth db.dialect _), if_pos (by simp [null])]
      exact Expr.Answers.null
    · refine gives_any sqlite (v := v.castText db.shown) (.caseWhen ?_)
      rw [answerBranches_cons isNull (Value.holds?_ofTruth db.dialect _), if_neg (by simp [null]),
        answerBranches_cons invalid (Value.holds?_ofTruth db.dialect _), if_neg null,
        Option.map_some, Option.isSome_none, Bool.not_false, if_pos rfl]
      exact answers_castText value
  | some json =>
    have type : (jsonType e).Answers db scope (.value (.text json.className.toList)) := by
      refine .call (by decide) (.cons value .nil) ?_
      change ((db.withJson v fun json => some (.text json.className.toList)).map Datum.value) = _
      rw [Database.withJson, if_neg (Engine.ne_null_of_jsonOf spelled), spelled]
      rfl
    obtain ⟨_, whole⟩ := exists_jsonExtract value spelled "$" rfl
    refine gives_caseWhen ?_ ?_
    · simp only [List.forall_mem_cons]
      exact ⟨⟨⟨_, isNull⟩, gives_any sqlite .null⟩,
        ⟨⟨_, invalid⟩, gives_any sqlite (answers_castText value)⟩,
        ⟨(isTruth_eqText _ type).exists_truth, gives_record sqlite value spelled⟩,
        ⟨(Expr.IsTruth.memberTexts ["true", "false"] false type).exists_truth,
          gives_any sqlite type⟩,
        ⟨(isTruth_eqText _ type).exists_truth, gives_any sqlite .null⟩, nofun⟩
    · rw [answerOptional]
      exact gives_any sqlite whole

end

omit sqlite in
theorem answers_eachType (db : Database) (i : Nat) (item : Json) :
    (eachColumn "type").Answers db (db.rowScope "json_each" "__el" [] false i item)
      (.value (.text item.className.toList)) := .column rfl

omit sqlite in
theorem answers_eachValue (db : Database) (i : Nat) (item : Json) :
    (eachColumn "value").Answers db (db.rowScope "json_each" "__el" [] false i item)
      (.value (item.stored db.write)) := .column rfl

theorem gives_eachText (i : Nat) (item : Json) :
    (Expr.caseOf (eachColumn "type")
      [⟨.text "object",
        .coalesce [jsonExtract (eachColumn "value") "$.title",
          jsonExtract (eachColumn "value") "$.name", eachColumn "value"]⟩,
       ⟨.text "true", .text "true"⟩, ⟨.text "false", .text "false"⟩]
      (some (eachColumn "value"))).Gives db (db.rowScope "json_each" "__el" [] false i item)
      (Value.IsTextOrNull db.dialect) := by
  have value := answers_eachValue db i item
  refine gives_caseOf (answers_eachType db i item) (.inr ⟨_, rfl⟩) ?_ ?_
  · simp only [List.forall_mem_cons]
    refine ⟨⟨_, .text "object", fun object => ?_⟩,
      ⟨_, .text "true", fun _ => gives_any sqlite (.text _)⟩,
      ⟨_, .text "false", fun _ => gives_any sqlite (.text _)⟩, nofun⟩
    obtain ⟨members, rfl⟩ := Json.exists_object (String.toList_inj.1 (Value.text.inj object))
    obtain ⟨json, spelled⟩ := Option.isSome_iff_exists.1 (db.write_json (.object members))
    exact gives_record sqlite value spelled
  · rw [answerOptional]
    exact gives_any sqlite value

theorem gives_jsonJoin_sqlite {v : Value} (value : e.Answers db scope (.value v))
    (noBlob : ∀ cs, v ≠ .other cs) (separator : String) :
    (jsonJoin .sqlite (.text separator) e).Gives db scope (Value.IsTextOrNull db.dialect) := by
  obtain ⟨w, items, source, found⟩ := exists_each sqlite value noBlob
  refine gives_subquery source found (fun i item _ => ?_) fun kept rows => ?_
  · obtain ⟨t, -, differs⟩ := answers_compare (answers_eachType db i item) (.text "null") ⟨_, rfl⟩
    exact ⟨some !t, differs⟩
  · refine exists_answerColumn ?_ fun table each => exists_joined (.inr rfl) each
    intro row member
    obtain ⟨i, item, -, rfl, -⟩ := rows row member
    obtain ⟨a, text, fine⟩ := gives_eachText sqlite i item
    exact ⟨[a, .text separator.toList], .cons text (.cons (.text separator) .nil), a,
      separator.toList, rfl, fine⟩

theorem exists_ofText (f : List Char → List Char) (v : Value) :
    ∃ w, db.ofText f v = some w ∧ (w = .null ∨ ∃ cs, w = .text cs) := by
  by_cases null : v = .null
  · subst null
    unfold Database.ofText
    cases db.dialect <;> exact ⟨.null, rfl, .inl rfl⟩
  · have isText : Value.IsText db.dialect v :=
      ⟨null, fun postgres => absurd (sqlite.symm.trans postgres) Dialect.noConfusion⟩
    obtain ⟨cs, text⟩ := ofText_of_isText f isText
    exact ⟨.text cs, text, .inr ⟨cs, rfl⟩⟩

omit sqlite in
theorem exists_globMatch {glob : Glob} (spelled : Glob.ofText? glob.text = some glob)
    (value : e.Answers db scope (.value v)) (text : v = .null ∨ ∃ cs, v = .text cs) :
    ∃ truth, (globMatch e glob).Answers db scope (.value (.ofTruth db.dialect truth)) ∧
      ∀ cs, v = .text cs → truth = some (glob.accepts cs) := by
  rcases text with rfl | ⟨cs, rfl⟩
  · exact ⟨none, .binary value (.text glob.text) fun _ => rfl, by rintro _ ⟨⟩⟩
  · refine ⟨some (glob.accepts cs), .binary value (.text glob.text) fun areIntegers => ?_,
      by rintro _ ⟨⟩; rfl⟩
    rw [binary_value_glob, Value.globMatch?, String.ofList_toList, spelled]
    rfl

def looksDecimal (cs : List Char) : Bool :=
  cs != [] && !(Glob.having (.set (.except [.span '0' '9', .one '.']))).accepts cs &&
    (Glob.having .digit).accepts cs &&
    !Glob.accepts [.anyRun, .char '.', .anyRun, .char '.', .anyRun] cs

theorem exists_isDecimalText (value : e.Answers db scope (.value v)) :
    ∃ truth, (isDecimalText e).Answers db scope (.value (.ofTruth db.dialect truth)) ∧
      ∀ cs, v = .text cs → truth = some (looksDecimal
        ((Chars.strip (· == ' ') cs).dropWhile "+-".toList.contains)) := by
  obtain ⟨w, trimmed, -⟩ := exists_ofText sqlite (Chars.strip (· == ' ')) v
  obtain ⟨u, bare, text⟩ := exists_ofText sqlite (List.dropWhile "+-".toList.contains) w
  have trim : (Expr.call "trim" [e]).Answers db scope (.value w) :=
    .call (by decide) (.cons value .nil) (congrArg (Option.map Datum.value) trimmed)
  have digits : (Expr.call "ltrim" [.call "trim" [e], .text "+-"]).Answers db scope (.value u) :=
    .call (by decide) (.cons trim (.cons (.text "+-") .nil))
      (congrArg (Option.map Datum.value) bare)
  have filled : ∃ truth, ((Expr.call "ltrim" [.call "trim" [e], .text "+-"]).ne (.text "")).Answers
      db scope (.value (.ofTruth db.dialect truth)) ∧
        ∀ cs, u = .text cs → truth = some (cs != []) := by
    rcases text with rfl | ⟨cs, rfl⟩
    · exact ⟨none, .binary digits (.text "") fun _ => rfl, by rintro _ ⟨⟩⟩
    · exact ⟨_, .binary digits (.text "") fun _ => rfl, by rintro _ ⟨⟩; rfl⟩
  obtain ⟨a, filled, isFilled⟩ := filled
  obtain ⟨b, strange, isStrange⟩ := exists_globMatch
    (show Glob.ofText? (Glob.having (.set (.except [.span '0' '9', .one '.']))).text = _ by rfl)
    digits text
  obtain ⟨c, digit, isDigit⟩ := exists_globMatch
    (show Glob.ofText? (Glob.having .digit).text = some (Glob.having .digit) by rfl) digits text
  obtain ⟨d, points, isPoints⟩ := exists_globMatch
    (show Glob.ofText? (Glob.text [.anyRun, .char '.', .anyRun, .char '.', .anyRun]) = _ by rfl)
    digits text
  refine ⟨[b.map (!·), c, d.map (!·)].foldl Value.andTruth a,
    .chain (.cons filled (.cons (strange.not (Value.holds?_ofTruth _ b)) (.cons digit
      (.cons (points.not (Value.holds?_ofTruth _ d)) .nil)))) fun areIntegers => ?_, ?_⟩
  · exact chain_eq (binary_and areIntegers) a [b.map (!·), c, d.map (!·)]
  · rintro cs rfl
    have ofText : ∀ (f : List Char → List Char) (cs : List Char),
        db.ofText f (.text cs) = some (.text (f cs)) := fun f cs => by
      unfold Database.ofText
      cases db.dialect <;> rfl
    have both : ∀ a b : Bool, Value.andTruth (some a) (some b) = some (a && b) := by decide
    obtain rfl := Option.some.inj ((ofText _ _).symm.trans trimmed)
    have isText := (Option.some.inj ((ofText _ _).symm.trans bare)).symm
    rw [isFilled _ isText, isStrange _ isText, isDigit _ isText, isPoints _ isText]
    simp only [List.foldl_cons, List.foldl_nil, Option.map_some, both]
    rfl

theorem gives_jsonNumber_sqlite {v : Value} (value : e.Answers db scope (.value v))
    (noBlob : ∀ cs, v ≠ .other cs) :
    (jsonNumber .sqlite "SUM" e).Gives db scope Value.IsNumberOrNull := by
  obtain ⟨w, items, source, found⟩ := exists_each sqlite value noBlob
  refine gives_subquery source found (fun i item _ => ?_) fun kept rows => ?_
  · have type := answers_eachType db i item
    obtain ⟨isNumber, number⟩ := Expr.IsTruth.memberTexts ["integer", "real"] false type
    obtain ⟨isText, text⟩ := isTruth_eqText "text" type
    obtain ⟨decimal, spelled, -⟩ := exists_isDecimalText sqlite (answers_eachValue db i item)
    have number : (isNumberType (eachColumn "type")).Answers db _
      (.value (.ofTruth db.dialect (some isNumber))) := number
    have text : ((eachColumn "type").eq (.text "text")).Answers db _
      (.value (.ofTruth db.dialect (some isText))) := text
    exact ⟨_, number.or (text.and spelled)⟩
  · refine exists_answerColumn ?_ fun table each => exists_sum_rows each
    intro row member
    obtain ⟨i, item, -, rfl, -⟩ := rows row member
    obtain ⟨u, real, number⟩ := Value.exists_castReal
      (fun postgres => absurd (sqlite.symm.trans postgres) Dialect.noConfusion)
      fun _ => item.stored_ne_bool db.write
    refine ⟨[u], .cons (.cast (answers_eachValue db i item) ?_) .nil, u, rfl, number⟩
    exact congrArg (Option.map Datum.value) real


end

end

end SheetSql
