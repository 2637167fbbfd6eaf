import SheetSql.Coerce.Datetime
import SheetSql.Coerce.Number
import SheetSql.Coerce.Truth
import SheetSql.Error
import SheetSql.Proofs.Alike.Build
import SheetSql.Proofs.Outcome.Build

namespace SheetSql

/-! Values that are like and obey the rule of a target are made out of expressions that do. -/

attribute [local simp] Expr.operator_eq

/--
What two computations are held to: how their texts may differ, the functions they may call on top,
and the errors they may have.
-/
structure Terms where
  likeness : Likeness
  stable : List String
  allows : Error → Prop

/-- Like expressions, of which the first obeys the rule of a target. -/
@[simp] abbrev Terms.Sound (terms : Terms) (target : Target) (e e' : Expr) : Prop :=
  Expr.Alike terms.likeness e e' ∧ e.obeys (.emitted target terms.stable) = true

namespace Coerce

variable {terms : Terms} {dialect : Dialect} {placement : Placement} {e e' : Expr}

section

variable (sound : terms.Sound ⟨dialect, placement⟩ e e')

include sound

theorem jsonText_sound :
    terms.Sound ⟨dialect, placement⟩ (jsonText dialect e) (jsonText dialect e') := by
  cases dialect <;>
    simp +decide [jsonText, jsonbText, jsonbType, jsonbMember, jsonType, jsonValid, jsonExtract,
      sound]

theorem jsonLength_sound :
    terms.Sound ⟨dialect, placement⟩ (jsonLength dialect e) (jsonLength dialect e') := by
  cases dialect <;> simp +decide [jsonLength, jsonbType, jsonType, jsonValid, sound]

theorem jsonTruth_sound :
    terms.Sound ⟨dialect, placement⟩ (jsonTruth e) (jsonTruth e') := by
  simp +decide [jsonTruth, sound]

theorem replaceEach_sound (signs : List String) :
    terms.Sound ⟨dialect, placement⟩
      (signs.foldl (fun s sign => .call "REPLACE" [s, .text sign, .text ""]) e)
      (signs.foldl (fun s sign => .call "REPLACE" [s, .text sign, .text ""]) e') := by
  induction signs generalizing e e' with
  | nil => exact sound
  | cons sign rest ih => exact ih (by simp +decide [sound])

theorem looseNumber_sound :
    terms.Sound ⟨dialect, placement⟩ (looseNumber dialect e) (looseNumber dialect e') := by
  cases dialect with
  | postgres => simp +decide [looseNumber, regexMatch, sound]
  | sqlite =>
    have trimmed : terms.Sound ⟨.sqlite, placement⟩ (.call "TRIM" [e.cast .text])
        (.call "TRIM" [e'.cast .text]) := by
      simp +decide [sound]
    have bare := replaceEach_sound trimmed decorations
    simp +decide [looseNumber, isNumberType, globMatch, sound, bare]

theorem numberText_sound :
    terms.Sound ⟨dialect, placement⟩ (numberText dialect e) (numberText dialect e') := by
  cases dialect <;> simp +decide [numberText, sound]

theorem boolTruth_sound :
    terms.Sound ⟨dialect, placement⟩ (boolTruth dialect e) (boolTruth dialect e') := by
  cases dialect <;> simp +decide [boolTruth, sound]

theorem unknownTruth_sound :
    terms.Sound ⟨dialect, placement⟩ (unknownTruth ⟨dialect, placement⟩ e)
      (unknownTruth ⟨dialect, placement⟩ e') := by
  cases dialect <;> cases placement <;>
    simp +decide [unknownTruth, numberTypes, regexMatch, sound]

theorem normalDatetime_sound (apart : e.isNow = false) :
    terms.Sound ⟨dialect, placement⟩ (normalDatetime dialect e) (normalDatetime dialect e') := by
  cases dialect <;> simp +decide [normalDatetime, sound, apart]

theorem datetimeText_sound (apart : e.isNow = false)
    (shown : dialect = .postgres → placement = .generated → "to_char" ∈ terms.stable) :
    terms.Sound ⟨dialect, placement⟩ (datetimeText dialect e) (datetimeText dialect e') := by
  cases dialect with
  | postgres =>
    cases placement with
    | select => simp +decide [datetimeText, sound]
    | generated =>
      have free : isFree "to_char" = true := by decide
      simp +decide [datetimeText, sound, node_of_isFree free, shown rfl rfl]
  | sqlite => simp +decide [datetimeText, normalDatetime, sound, apart]

theorem parseIso_sound (clock : WallClock) :
    terms.Sound ⟨dialect, placement⟩ (parseIso dialect clock e) (parseIso dialect clock e') := by
  cases dialect with
  | postgres =>
    simp +decide [parseIso, parseIsoPostgres, lastDay, interval, regexMatch, sound]
  | sqlite => simp +decide [parseIso, parseIsoSqlite, globMatch, sound]

end

@[simp] theorem alike_each {l : Likeness} :
    SourceAlike l (some (each e)) (some (each e')) ↔ Expr.Alike l e e' := by
  simp +decide [each, asJson, jsonValid]

@[simp] theorem sourceObeys_each :
    sourceObeys (.emitted ⟨.sqlite, placement⟩ stable) (some (each e)) =
      e.obeys (.emitted ⟨.sqlite, placement⟩ stable) := by
  simp +decide [each, asJson, jsonValid]

@[simp] theorem alike_eachColumn {l : Likeness} (name : String) :
    Expr.Alike l (eachColumn name) (eachColumn name) :=
  .column _ _

@[simp] theorem obeys_eachColumn (name : String) :
    (eachColumn name).obeys (.emitted t stable) = true := by
  simp [eachColumn]

theorem columnsObey_aggregate {value : Expr}
    (known : (isFree aggregate || ["max", "min"].contains (Text.lowered aggregate)) = true)
    (obeys : value.obeys (.emitted ⟨.sqlite, .select⟩ stable) = true) :
    columnsObey (.emitted ⟨.sqlite, .select⟩ stable) true [⟨.call aggregate [value], label⟩] =
      true := by
  refine columnsObey_fold ?_ (by rw [Expr.partsObey, allObey_cons, obeys, allObey_nil]; rfl)
  rcases Bool.or_eq_true_iff.1 known with free | extremum
  · rw [node_sqlite free, Bool.true_or]
  · have fold : (Rule.emitted ⟨.sqlite, .select⟩ stable).fold (.call aggregate [value]) = true :=
      extremum
    rw [fold, Bool.and_self, Bool.or_true]

section

variable (allowed : terms.likeness.queries) (sound : terms.Sound ⟨dialect, .select⟩ e e')

include allowed sound

theorem jsonNumber_sound (name : isFunctionName aggregate = true)
    (known : (isFree aggregate || ["max", "min"].contains (Text.lowered aggregate)) = true) :
    terms.Sound ⟨dialect, .select⟩ (jsonNumber dialect aggregate e)
      (jsonNumber dialect aggregate e') := by
  cases dialect with
  | postgres =>
    simp +decide [jsonNumber, Select.value, Select.of, asArray, jsonbType, regexMatch, allowed,
      name, sound]
    exact terms.likeness.admits_of_not_readsEach rfl
  | sqlite =>
    have list : columnsObey (.emitted ⟨.sqlite, .select⟩ terms.stable)
        (readsEach (some (each e)) none)
        [⟨.call aggregate [(eachColumn "value").cast .double], none⟩] = true :=
      columnsObey_aggregate known (by simp +decide)
    simp +decide [jsonNumber, Select.value, Select.of, isNumberType, isDecimalText, globMatch,
      allowed, name, sound, list]
    exact terms.likeness.admits_of_isTidy fun _ _ => ⟨rfl, rfl, rfl⟩

theorem jsonCount_sound :
    terms.Sound ⟨dialect, .select⟩ (jsonCount dialect e) (jsonCount dialect e') := by
  cases dialect with
  | postgres =>
    simp +decide [jsonCount, Select.value, Select.of, asArray, jsonbType, allowed, sound]
    exact terms.likeness.admits_of_not_readsEach rfl
  | sqlite =>
    simp +decide [jsonCount, Select.value, Select.of, allowed, sound]
    exact terms.likeness.admits_of_isTidy fun _ _ => ⟨rfl, rfl, rfl⟩

/-- On SQLite the separator stands among the columns of the rows. -/
theorem jsonJoin_sound (between : terms.Sound ⟨dialect, .select⟩ separator separator')
    (hidden : (∀ p, separator.exposes p true = false) ∨ ∀ query, terms.likeness.admits query) :
    terms.Sound ⟨dialect, .select⟩ (jsonJoin dialect separator e)
      (jsonJoin dialect separator' e') := by
  cases dialect with
  | postgres =>
    simp +decide [jsonJoin, Select.value, Select.of, asArray, jsonbType, jsonbMember, jsonbText,
      elementText, allowed, between, sound]
    exact terms.likeness.admits_of_not_readsEach rfl
  | sqlite =>
    simp +decide [jsonJoin, Select.value, Select.of, jsonExtract, allowed, between, sound]
    rcases hidden with hidden | free
    · refine terms.likeness.admits_of_isTidy fun _ p => ⟨?_, rfl, rfl⟩
      simp only [columnsExpose, Expr.exposes, anyExposes, hidden p, Bool.or_false]
      rfl
    · exact free _

end

end Coerce

end SheetSql
