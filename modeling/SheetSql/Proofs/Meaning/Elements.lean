import SheetSql.Compile.Array
import SheetSql.Proofs.Meaning.Run

namespace SheetSql

/-! The elements that a query takes out of a JSON cell, one row for each. -/

open Coerce Steps

namespace Json

/-- The elements that a cell is meant to have: those of an array, or one. -/
def elements : Json → List Json
  | .array items => items
  | json => [json]

def isObject : Json → Bool
  | .object _ => true
  | _ => false

/-- The values that `json_each` has rows for. -/
def children : Json → List Json
  | .array items => items
  | .object members => members.map Prod.snd
  | json => [json]

/-- No object is the only value in itself. -/
theorem values_ne_self (members : List (String × Json)) :
    members.map Prod.snd ≠ [.object members] := by
  intro same
  cases members with
  | nil => cases same
  | cons member rest =>
    obtain ⟨key, value⟩ := member
    have self : value = .object ((key, value) :: rest) := by
      simpa using congrArg List.head? same
    have size := congrArg sizeOf self
    simp only [object.sizeOf_spec, List.cons.sizeOf_spec, Prod.mk.sizeOf_spec] at size
    omega

theorem children_eq_elements_iff (json : Json) :
    json.children = json.elements ↔ json.isObject = false := by
  cases json with
  | object members => simpa [children, elements, isObject] using values_ne_self members
  | _ => simp [children, elements, isObject]

end Json

namespace Engine

def HasCell (engine : Engine) (e : Expr) (json : Json) : Prop :=
  ∃ scalar, (e.run engine).Gives (fun _ => True) (.value scalar) ∧
    engine.jsonOf scalar = some json

/--
The elements that a function of rows runs through. Postgres takes nothing but arrays apart; a null
has no rows on both engines.
-/
def rowsOf (engine : Engine) (function : String) : Datum → Option (List Json)
  | .value scalar =>
    if scalar = .null then some []
    else if function = "json_each" then (engine.jsonOf scalar).map Json.children
    else none
  | .json (.array items) =>
    if function = "jsonb_array_elements" ∨ function = "jsonb_array_elements_text" then some items
    else none
  | _ => none

end Engine

noncomputable def Select.elements? (engine : Engine) (query : Select) : Option (List Json) :=
  match query.source with
  | some (.function (.call function [arg]) _ _ _) =>
    Option.bind (arg.run engine) fun result => engine.rowsOf function result.1
  | _ => none

def Expr.query? : Expr → Option Select
  | .subquery query => some query
  | _ => none

inductive Expansion where
  | number (aggregate : String)
  | count
  | join (separator : Expr)
  /-- The elements as those of argument `i` of an array function. -/
  | member (mode : ArrayMode) (i : Nat)

namespace Expansion

def query? (dialect : Dialect) (e : Expr) : Expansion → Option Select
  | number aggregate => (jsonNumber dialect aggregate e).query?
  | count => (jsonCount dialect e).query?
  | join separator => (jsonJoin dialect separator e).query?
  | member mode i =>
    match dialect with
    | .postgres => some (Elements.memberPostgres mode i (e.cast .jsonb))
    | .sqlite => some (Elements.memberSqlite mode i e e)

noncomputable def elements? (engine : Engine) (e : Expr) (expansion : Expansion) :
    Option (List Json) :=
  (expansion.query? engine.dialect e).bind (Select.elements? engine)

theorem exists_query_postgres (e : Expr) (expansion : Expansion) :
    ∃ query function arg ordinality label columns,
      expansion.query? .postgres e = some query ∧
        query.source = some (.function (.call function [asArray arg]) ordinality label columns) ∧
        (arg = e ∨ arg = e.cast .jsonb) ∧
        (function = "jsonb_array_elements" ∨ function = "jsonb_array_elements_text") := by
  cases expansion with
  | number aggregate => exact ⟨_, _, _, _, _, _, rfl, rfl, .inl rfl, .inr rfl⟩
  | count | join separator => exact ⟨_, _, _, _, _, _, rfl, rfl, .inl rfl, .inl rfl⟩
  | member mode i =>
    cases mode <;> exact ⟨_, _, _, _, _, _, rfl, rfl, .inr rfl, .inl rfl⟩

theorem exists_query_sqlite (e : Expr) (expansion : Expansion) :
    ∃ query, expansion.query? .sqlite e = some query ∧ query.source = some (each e) := by
  cases expansion with
  | number | count | join => exact ⟨_, rfl, rfl⟩
  | member mode i => cases mode <;> exact ⟨_, rfl, rfl⟩

end Expansion

section

variable {engine : Engine} {e : Expr} {json : Json}

theorem elements?_of_source {query : Select}
    (source : query.source = some (.function (.call function [arg]) ordinality label columns))
    (value : (arg.run engine).Gives (fun _ => True) datum) :
    query.elements? engine = engine.rowsOf function datum := by
  obtain ⟨acts, found, -⟩ := value
  rw [Select.elements?, source]
  change Option.bind (arg.run engine) _ = _
  rw [found]
  rfl

theorem run_castJson (cell : engine.HasCell e json) :
    ((e.cast .jsonb).run engine).Gives (fun _ => True) (.json json) := by
  obtain ⟨scalar, value, spelled⟩ := cell
  refine run_cast value ?_ trivial
  rw [Engine.cast, Engine.castJson, if_neg (Engine.ne_null_of_jsonOf spelled), spelled]
  rfl

theorem run_castJson_again
    (value : ((e.cast .jsonb).run engine).Gives (fun _ => True) (.json json)) :
    (((e.cast .jsonb).cast .jsonb).run engine).Gives (fun _ => True) (.json json) :=
  run_cast value rfl trivial

theorem run_asArray
    (value : ((e.cast .jsonb).run engine).Gives (fun _ => True) (.json json)) :
    ((asArray e).run engine).Gives (fun _ => True) (.json (.array json.elements)) := by
  have type : ((jsonbType (e.cast .jsonb)).run engine).Gives (fun _ => True)
      (.value (.text json.typeName.toList)) :=
    run_call (by decide) (runEach_cons value runEach_nil) rfl trivial
  have test : (((jsonbType (e.cast .jsonb)).eq (.text "array")).run engine).Gives (fun _ => True)
      (.value (.ofTruth engine.dialect (some (json.typeName.toList == "array".toList)))) :=
    run_binary type (run_text "array") rfl
  have wrapped : ((Expr.call "jsonb_build_array" [e.cast .jsonb]).run engine).Gives
      (fun _ => True) (.json (.array [json])) :=
    run_call (by decide) (runEach_cons value runEach_nil) rfl trivial
  apply run_caseWhen
  apply runBranches_cons test (truth?_ofTruth engine.dialect _)
  · intro array
    cases json with
    | array items => exact value
    | _ => simp [Json.typeName] at array
  · intro other
    rw [runBranches, runOptional]
    cases json with
    | array items => simp [Json.typeName] at other
    | _ => exact wrapped

theorem run_asJson (sqlite : engine.dialect = .sqlite)
    (value : (e.run engine).Gives (fun _ => True) (.value scalar))
    (spelled : engine.jsonOf scalar = some json) :
    ((asJson e).run engine).Gives (fun _ => True) (.value scalar) := by
  have known : decide (scalar = .null) = false :=
    decide_eq_false (Engine.ne_null_of_jsonOf spelled)
  have result : engine.apply "json_valid" [.value scalar] =
      some (.value (.ofTruth engine.dialect (some true))) := by
    change Engine.strict [.value scalar] (engine.jsonValid [.value scalar]) = _
    rw [Engine.strict, List.any_cons, Datum.isNull, known, Engine.jsonValid, spelled, sqlite]
    rfl
  have valid : ((jsonValid e).run engine).Gives (fun _ => True)
      (.value (.ofTruth engine.dialect (some true))) :=
    run_call (by decide) (runEach_cons value runEach_nil) result trivial
  apply run_caseWhen
  apply runBranches_cons valid (truth?_ofTruth engine.dialect _)
  · intro _
    exact value
  · intro other
    exact absurd rfl other

theorem elements?_postgres (postgres : engine.dialect = .postgres)
    (cell : engine.HasCell e json) (expansion : Expansion) :
    expansion.elements? engine e = some json.elements := by
  obtain ⟨query, function, arg, _, _, _, found, source, same, known⟩ :=
    expansion.exists_query_postgres e
  have value : ((arg.cast .jsonb).run engine).Gives (fun _ => True) (.json json) := by
    rcases same with rfl | rfl
    · exact run_castJson cell
    · exact run_castJson_again (run_castJson cell)
  rw [Expansion.elements?, postgres, found, Option.bind_some,
    elements?_of_source source (run_asArray value), Engine.rowsOf, if_pos known]

theorem elements?_sqlite (sqlite : engine.dialect = .sqlite) (cell : engine.HasCell e json)
    (expansion : Expansion) : expansion.elements? engine e = some json.children := by
  obtain ⟨query, found, source⟩ := expansion.exists_query_sqlite e
  obtain ⟨scalar, value, spelled⟩ := cell
  rw [Expansion.elements?, sqlite, found, Option.bind_some,
    elements?_of_source source (run_asJson sqlite value spelled), Engine.rowsOf,
    if_neg (Engine.ne_null_of_jsonOf spelled), if_pos rfl, spelled]
  rfl

end

/--
The engines take the same elements out of a cell exactly if its value is no object. Postgres takes
the elements of an array and any other value as one element; SQLite takes an object apart.
-/
theorem expansions_agree_iff {postgres sqlite : Engine} (onPostgres : postgres.dialect = .postgres)
    (onSqlite : sqlite.dialect = .sqlite) {e : Expr} {json : Json}
    (cell : postgres.HasCell e json) (cell' : sqlite.HasCell e json) (expansion : Expansion) :
    expansion.elements? postgres e = some json.elements ∧
      expansion.elements? sqlite e = some json.children ∧
      (expansion.elements? sqlite e = expansion.elements? postgres e ↔
        json.isObject = false) := by
  have one := elements?_postgres onPostgres cell expansion
  have other := elements?_sqlite onSqlite cell' expansion
  refine ⟨one, other, ?_⟩
  rw [one, other, Option.some_inj]
  exact json.children_eq_elements_iff

def linkText : List Char := "\x7b\"title\":\"Ada\"\x7d".toList

def link : Json := .object [("title", .text "Ada")]

noncomputable def linkEngine (dialect : Dialect) : Engine :=
  .ofRow ⟨dialect, fun _ => .text linkText, fun _ => false, fun _ => []⟩
    fun cs => if cs = linkText then some link else none

theorem linkEngine_hasCell (dialect : Dialect) :
    (linkEngine dialect).HasCell (.fragment "\"owner\"") link := by
  have value : (linkEngine dialect).fragment "\"owner\"" = .text linkText := by
    cases dialect <;> rfl
  refine ⟨.text linkText, ⟨[], ?_, by simp⟩, ?_⟩
  · rw [Expr.run, value]
    rfl
  · change (if linkText = linkText then some link else none) = some link
    rw [if_pos rfl]

theorem expansions_agree_iff_link :
    ((linkEngine .postgres).dialect = .postgres ∧ (linkEngine .sqlite).dialect = .sqlite) ∧
      ((linkEngine .postgres).HasCell (.fragment "\"owner\"") link ∧
        (linkEngine .sqlite).HasCell (.fragment "\"owner\"") link) ∧
      Expansion.count.elements? (linkEngine .postgres) (.fragment "\"owner\"") =
        some link.elements ∧
      Expansion.count.elements? (linkEngine .sqlite) (.fragment "\"owner\"") =
        some link.children ∧
      (Expansion.count.elements? (linkEngine .sqlite) (.fragment "\"owner\"") =
          Expansion.count.elements? (linkEngine .postgres) (.fragment "\"owner\"") ↔
        link.isObject = false) :=
  ⟨⟨rfl, rfl⟩, ⟨linkEngine_hasCell .postgres, linkEngine_hasCell .sqlite⟩,
    expansions_agree_iff rfl rfl (linkEngine_hasCell .postgres) (linkEngine_hasCell .sqlite)
      .count⟩

/-- A link is one element on Postgres and its title on SQLite. -/
theorem link_taken_apart :
    Expansion.count.elements? (linkEngine .postgres) (.fragment "\"owner\"") = some [link] ∧
      Expansion.count.elements? (linkEngine .sqlite) (.fragment "\"owner\"") =
        some [.text "Ada"] ∧ [link] ≠ [.text "Ada"] :=
  ⟨elements?_postgres rfl (linkEngine_hasCell .postgres) .count,
    elements?_sqlite rfl (linkEngine_hasCell .sqlite) .count, by simp [link]⟩

end SheetSql
