import SheetSql.Compile.Array
import SheetSql.Proofs.Outcome.Text

namespace SheetSql

/-! Like calls compile to like arrays that obey the rule of their target, which is a select. -/

open Coerce

attribute [local simp] Expr.operator_eq

variable {terms : Terms} {dialect : Dialect}

@[simp] abbrev Select.Sound (terms : Terms) (target : Target) (query query' : Select) : Prop :=
  Select.Alike terms.likeness query query' ∧ query.obeys (.emitted target terms.stable) = true

@[simp] abbrev Source.Sound (terms : Terms) (target : Target) (source source' : Source) : Prop :=
  SourceAlike terms.likeness (some source) (some source') ∧
    sourceObeys (.emitted target terms.stable) (some source) = true

namespace Elements

attribute [local simp] column rowJson

section

variable {site : Site} {operand operand' : Operand} (select : site.target.placement = .select)
  (fits : operand.Fits site terms operand')

include select fits

theorem asJsonb_keeps (postgres : site.target.dialect = .postgres) :
    site.Keeps terms (asJsonb site operand) (asJsonb site operand') := by
  have packed : ∀ {e e' : Expr}, terms.Sound site.target e e' →
      terms.Sound site.target (.call "to_jsonb" [e]) (.call "to_jsonb" [e']) := by
    intro e e' sound
    rw [Site.target_select select] at sound ⊢
    simp +decide [sound]
  have sound := fits.expr site.target
  have text := Site.toText_keeps fits (Operand.mayShow_of_select select)
  unfold asJsonb
  rw [fits.kind]
  cases operand.kind with
  | json => exact .ok (by simp [postgres, sound])
  | number => exact (Site.toNumber_keeps fits).bind fun number => .ok (packed number)
  | boolean => exact .ok (packed sound)
  | _ => exact text.bind fun text => .ok (packed text)

theorem asJsonArray_keeps :
    site.Keeps terms (asJsonArray site operand) (asJsonArray site operand') := by
  have packed : ∀ {e e' : Expr}, terms.Sound site.target e e' →
      terms.Sound site.target (.call "json_array" [e]) (.call "json_array" [e']) := by
    intro e e' sound
    rw [Site.target_select select] at sound ⊢
    simp +decide [sound]
  have word : ∀ {e e' : Expr}, terms.Sound site.target e e' →
      terms.Sound site.target (.call "json" [.ite e (.text "true") (.text "false")])
        (.call "json" [.ite e' (.text "true") (.text "false")]) := by
    intro e e' sound
    rw [Site.target_select select] at sound ⊢
    simp +decide [sound]
  have text := Site.toText_keeps fits (Operand.mayShow_of_select select)
  unfold asJsonArray
  rw [fits.kind]
  cases operand.kind with
  | json => exact .ok (fits.expr _)
  | number => exact (Site.toNumber_keeps fits).bind fun number => .ok (packed number)
  | boolean => exact (Site.toBool_keeps fits).bind fun truth => .ok (packed (word truth))
  | _ => exact text.bind fun text => .ok (packed text)

end

section

variable (free : ∀ query, terms.likeness.admits query)

include free

theorem memberPostgres_sound {json json' : Expr}
    (sound : terms.Sound ⟨.postgres, .select⟩ json json') :
    Select.Sound terms ⟨.postgres, .select⟩ (memberPostgres mode i json)
      (memberPostgres mode i json') := by
  cases mode <;>
    simp +decide [memberPostgres, named, kept, Select.of, asArray, jsonbType, sound, free]

theorem memberSqlite_sound {e e' json json' : Expr}
    (whole : terms.Sound ⟨.sqlite, .select⟩ e e')
    (sound : terms.Sound ⟨.sqlite, .select⟩ json json') :
    Select.Sound terms ⟨.sqlite, .select⟩ (memberSqlite mode i e json)
      (memberSqlite mode i e' json') := by
  cases mode <;> simp +decide [memberSqlite, named, Select.of, whole, sound, free]

theorem member?_keeps {site : Site} {operand operand' : Operand}
    (select : site.target.placement = .select) (fits : operand.Fits site terms operand') :
    Agree (Option.Rel (Select.Sound terms site.target)) terms.allows (member? site mode i operand)
      (member? site mode i operand') := by
  unfold member?
  rw [fits.isBlank]
  split
  · exact .ok .none
  · cases dialect : site.target.dialect with
    | postgres =>
      refine (asJsonb_keeps select fits dialect).bind fun sound => .ok (.some ?_)
      rw [Site.target_select select, dialect] at sound ⊢
      exact memberPostgres_sound free sound
    | sqlite =>
      refine (asJsonArray_keeps select fits).bind fun sound => .ok (.some ?_)
      rw [Site.target_select select, dialect] at sound ⊢
      exact memberSqlite_sound free (fits.expr _) sound

variable (allowed : terms.likeness.queries) {all all' : Source}
  (rows : Source.Sound terms ⟨dialect, .select⟩ all all')

include allowed rows

theorem ranked_sound :
    Source.Sound terms ⟨dialect, .select⟩ (ranked dialect all) (ranked dialect all') := by
  cases dialect <;>
    simp +decide [ranked, columns, elementColumn, named, kept, order, Select.of, allowed, rows,
      free]

theorem collected_sound :
    terms.Sound ⟨dialect, .select⟩ (collected dialect mode all) (collected dialect mode all') := by
  have first := ranked_sound free allowed rows
  cases dialect <;> cases mode <;>
    simp +decide [collected, keptRows, kept, order, Select.value, Select.of, allowed, rows, first,
      free]

end

end Elements

namespace Call

variable {call call' : Call}

theorem queries_sound
    (each : List.Forall₂ (Option.Rel (Select.Sound terms target)) members members') :
    List.Forall₂ (Select.Sound terms target) (members.filterMap id) (members'.filterMap id) := by
  induction each with
  | nil => exact .nil
  | cons head _ ih =>
    cases head with
    | none => exact ih
    | some sound => exact .cons sound ih

theorem union_sound (each : List.Forall₂ (Select.Sound terms target) queries queries') :
    SelectsAlike terms.likeness queries queries' ∧
      queriesObey (.emitted target terms.stable) queries = true := by
  induction each with
  | nil => exact ⟨.nil, queriesObey_nil⟩
  | cons head _ ih => simp [head, ih]

theorem arrayOf_keeps (fits : call.Fits terms call')
    (free : ∀ query, terms.likeness.admits query)
    (many : call.target.placement = .generated → terms.allows (.needsSubquery call.operation)) :
    call.Keeps terms (call.arrayOf mode) (call'.arrayOf mode) := by
  rw [arrayOf, arrayOf, dialect_eq fits, fits.site]
  have numbered : List.Forall₂
      (fun one other => one.1 = other.1 ∧ one.2.Fits call.toSite terms other.2)
      (call.operands.mapIdx fun i operand => (i, operand))
      (call'.operands.mapIdx fun i operand => (i, operand)) :=
    forall₂_mapIdx fits.operands fun i _ _ same => ⟨rfl, same⟩
  refine Site.needSubquery_keeps fits.queries many fun select queries => Agree.bind
    (Agree.mapM (s := Option.Rel (Select.Sound terms call.target)) numbered
      fun {one other} same => ?_) fun {members members'} each => ?_
  · obtain ⟨i, operand⟩ := one
    obtain ⟨rfl, same⟩ := same
    exact Elements.member?_keeps free select same
  · have chosen := queries_sound each.2
    generalize members.filterMap id = list, members'.filterMap id = list' at chosen
    have both := union_sound chosen
    cases chosen with
    | nil => exact .ok (by simp)
    | cons head tail =>
      refine .ok ?_
      rw [Site.target_select select] at both ⊢
      exact Elements.collected_sound free queries (by simpa using both)

end Call

end SheetSql
