import SheetSql.Compile.Text
import SheetSql.Proofs.Outcome.Numeric

namespace SheetSql.Call

/-! Like calls compile to like texts that obey the rule of their target. -/

open Coerce

attribute [local simp] Expr.operator_eq

variable {terms : Terms} {call call' : Call}

section

variable {dialect : Dialect} {placement : Placement} {t t' x x' y y' z z' : Expr}
  (text : terms.Sound ⟨dialect, placement⟩ t t') (first : terms.Sound ⟨dialect, placement⟩ x x')
  (second : terms.Sound ⟨dialect, placement⟩ y y') (third : terms.Sound ⟨dialect, placement⟩ z z')

include text first

theorem rightOf_sound :
    terms.Sound ⟨dialect, placement⟩ (rightOf dialect t x) (rightOf dialect t' x') := by
  cases dialect <;> simp +decide [rightOf, text, first]

theorem repeatOf_sound :
    terms.Sound ⟨dialect, placement⟩ (repeatOf dialect t x) (repeatOf dialect t' x') := by
  cases dialect <;> simp +decide [repeatOf, repeatCap, maxRepeatLength, text, first]

include second

theorem positionFrom_sound :
    terms.Sound ⟨dialect, placement⟩ (positionFrom dialect t x y)
      (positionFrom dialect t' x' y') := by
  simp +decide [positionFrom, text, first, second]

include third

theorem splice_sound : terms.Sound ⟨dialect, placement⟩ (splice t x y z) (splice t' x' y' z') := by
  simp +decide [splice, text, first, second, third]

end

section

variable {placement : Placement} {t t' old old' new new' : Expr} {nth : Nat}

/-- Postgres does not have `array_to_string` as immutable. -/
theorem substitutePostgres_sound (text : terms.Sound ⟨.postgres, placement⟩ t t')
    (first : terms.Sound ⟨.postgres, placement⟩ old old')
    (second : terms.Sound ⟨.postgres, placement⟩ new new')
    (joined : placement = .generated → "array_to_string" ∈ terms.stable) :
    terms.Sound ⟨.postgres, placement⟩ (substitutePostgres nth t old new)
      (substitutePostgres nth t' old' new') := by
  have free : isFree "array_to_string" = true := by decide
  have node : ∀ args, (Rule.emitted ⟨.postgres, placement⟩ terms.stable).node
      (.call "array_to_string" args) = true := by
    intro args
    cases placement with
    | select => exact node_select (by decide) args
    | generated => simp [node_of_isFree free, joined rfl]
  simp +decide [substitutePostgres, node, text, first, second]

theorem substituteSqlite_sound (allowed : terms.likeness.queries)
    (text : terms.Sound ⟨.sqlite, placement⟩ t t')
    (first : terms.Sound ⟨.sqlite, placement⟩ old old')
    (second : terms.Sound ⟨.sqlite, placement⟩ new new') :
    terms.Sound ⟨.sqlite, placement⟩ (substituteSqlite nth t old new)
      (substituteSqlite nth t' old' new') := by
  simp +decide [substituteSqlite, Select.value, Select.of, allowed, text, first, second]
  exact ⟨terms.likeness.admits_of_not_readsEach rfl, terms.likeness.admits_of_not_readsEach rfl,
    terms.likeness.admits_of_not_readsEach rfl⟩

theorem urlEncoded_sound (allowed : terms.likeness.queries)
    (text : terms.Sound ⟨.postgres, .select⟩ t t') :
    terms.Sound ⟨.postgres, .select⟩ (urlEncoded t) (urlEncoded t') := by
  simp +decide [urlEncoded, Select.value, Select.of, regexMatch, allowed, text]
  exact terms.likeness.admits_of_not_readsEach rfl

end

def addedAsText (call : Call) : List Operand :=
  if (call.operand 0).isTextLike || (call.operand 1).isTextLike then
    [call.operand 0, call.operand 1]
  else []

section

variable (fits : call.Fits terms call')

include fits

theorem concatenate_keeps (some : call.args ≠ [])
    (shows : ∀ operand ∈ call.operands, operand.MayShow call.toSite terms) :
    call.Keeps terms call.concatenate call'.concatenate := by
  rw [concatenate, concatenate, fits.site]
  exact sequence_keeps fits rfl some fun member same =>
    Site.toTextOrEmpty_keeps same (shows _ member)

theorem add_keeps (shows : ∀ operand ∈ call.addedAsText, operand.MayShow call.toSite terms) :
    call.Keeps terms call.add call'.add := by
  have first := operand_fits fits 0
  have second := operand_fits fits 1
  unfold Call.add
  unfold addedAsText at shows
  rw [fits.site]
  dsimp only
  rw [first.isTextLike, second.isTextLike]
  split
  · rw [if_pos ‹_›] at shows
    exact (Site.toTextOrEmpty_keeps first (shows _ (by simp))).bind fun left =>
      (Site.toTextOrEmpty_keeps second (shows _ (by simp))).bind fun right =>
        .ok (by simp +decide [left, right])
  · exact (Site.toNumberOrZero_keeps first).bind fun left =>
      (Site.toNumberOrZero_keeps second).bind fun right => .ok (by simp +decide [left, right])

theorem t_keeps : call.Keeps terms call.t call'.t := by
  have same := operand_fits fits 0
  have kept : (call.operand 0).kind ≠ .datetime →
      call.Keeps terms (call.toText (call.operand 0)) (call.toText (call'.operand 0)) :=
    fun other => Site.toText_keeps same fun moment => absurd moment other
  unfold Call.t
  rw [fits.site]
  dsimp only
  rw [same.kind, same.isTextLike]
  split
  · exact kept (by simp [*])
  · exact kept (by simp [*])
  · split
    · exact kept (by simp [*])
    · exact .ok (by simp)
  · exact .ok (by simp)

theorem raise_keeps (select : call.target.placement = .select) :
    call.Keeps terms call.raise call'.raise := by
  have raised : ∀ {message message' : Expr}, terms.Sound call.target message message' →
      terms.Sound call.target
        (((Expr.call "concat" [.text "#ERROR: ", message]).cast .numeric).cast .text)
        (((Expr.call "concat" [.text "#ERROR: ", message']).cast .numeric).cast .text) := by
    intro message message' sound
    rw [Site.target_select select] at sound ⊢
    simp +decide [sound]
  rw [raise, raise, has_eq fits]
  split
  · exact (textOrEmpty_keeps fits 0 (Operand.mayShow_of_select select)).bind fun sound =>
      .ok (raised sound)
  · exact .ok (raised (by simp))

theorem encodeUrl_keeps (postgres : call.dialect = .postgres)
    (many : call.target.placement = .generated → terms.allows (.needsSubquery call.operation)) :
    call.Keeps terms call.encodeUrl call'.encodeUrl := by
  refine needSubquery_keeps fits many fun select queries =>
    (textOrEmpty_keeps fits 0 (Operand.mayShow_of_select select)).bind fun sound => .ok ?_
  have target : call.target = ⟨.postgres, .select⟩ := by
    rw [← select, ← show call.target.dialect = .postgres from postgres]
  rw [target] at sound ⊢
  exact urlEncoded_sound queries sound

end

section

variable (fits : call.Fits terms call') (shows : (call.operand 0).MayShow call.toSite terms)

include fits shows

theorem textFunction_keeps (name : isFunctionName function = true)
    (plain : isPlain function = true) :
    call.Keeps terms (call.textFunction function) (call'.textFunction function) :=
  (text_keeps fits 0 shows).bind fun sound =>
    .ok (by simp [name, node_of_isPlain plain, sound])

theorem len_keeps : call.Keeps terms call.len call'.len :=
  (textOrEmpty_keeps fits 0 shows).bind fun sound => .ok (by simp +decide [sound])

theorem mid_keeps : call.Keeps terms call.mid call'.mid :=
  (text_keeps fits 0 shows).bind fun text => (position_keeps fits 1).bind fun start =>
    (length_keeps fits 2).bind fun count => .ok (by simp +decide [text, start, count])

theorem left_keeps : call.Keeps terms call.left call'.left :=
  (lengthOrOne_keeps fits 1).bind fun count => (text_keeps fits 0 shows).bind fun text =>
    .ok (by simp +decide [text, count])

theorem right_keeps : call.Keeps terms call.right call'.right := by
  rw [right, right, dialect_eq fits]
  exact (text_keeps fits 0 shows).bind fun text => (lengthOrOne_keeps fits 1).bind fun count =>
    .ok (rightOf_sound text count)

theorem rept_keeps : call.Keeps terms call.rept call'.rept := by
  rw [rept, rept, dialect_eq fits]
  exact (textOrEmpty_keeps fits 0 shows).bind fun text => (length_keeps fits 1).bind fun count =>
    .ok (repeatOf_sound text count)

/-- A separator is only used in a select, so that it does not matter how it is shown elsewhere. -/
theorem arrayJoin_keeps (free : (call.operand 0).kind = .json → call.has 1 = true →
      ∀ query, terms.likeness.admits query) :
    call.Keeps terms call.arrayJoin call'.arrayJoin := by
  have same := operand_fits fits 0
  have joined : (call.operand 0).kind = .json → ∀ {separator separator' : Expr},
      (call.target.placement = .select → terms.Sound call.target separator separator') →
      ((∀ p, separator.exposes p true = false) ∨ ∀ query, terms.likeness.admits query) →
        call.Keeps terms
          (do
            call.needSubquery
            return jsonJoin call.dialect separator (call.operand 0).expr)
          (do
            call.needSubquery
            return jsonJoin call.dialect separator' (call'.operand 0).expr) := by
    intro json separator separator' good hidden
    refine Site.needSubquery_keeps fits.queries (same.many json) fun select queries => .ok ?_
    have between := good select
    rw [Site.target_select select] at between ⊢
    exact jsonJoin_sound queries (same.expr _) between hidden
  have separator : Agree
      (fun e e' => call.target.placement = .select → terms.Sound call.target e e') terms.allows
      (call.textOrEmpty 1) (call'.textOrEmpty 1) := by
    cases placement : call.target.placement with
    | select =>
      have kept := textOrEmpty_keeps fits 1 (Operand.mayShow_of_select placement)
      exact kept.imp fun good _ => good
    | generated =>
      have second := operand_fits fits 1
      have loose : call.Keeps { terms with stable := ["to_char"] } (call.textOrEmpty 1)
          (call'.textOrEmpty 1) := by
        rw [Call.textOrEmpty, Call.textOrEmpty, fits.site]
        exact Site.toTextOrEmpty_keeps ⟨second.toAlike, second.queries, second.apart, second.many⟩
          fun _ _ _ => List.mem_singleton_self _
      exact loose.imp fun _ select => by cases select
  have text := Site.toText_keeps same shows
  unfold Call.arrayJoin
  rw [has_eq fits, dialect_eq fits, fits.site]
  dsimp only
  rw [same.kind]
  cases kind : (call.operand 0).kind with
  | json =>
    split
    · next given =>
        exact separator.bind fun good => joined kind good (.inr (free kind given))
    · exact joined kind (fun _ => by simp) (.inl fun _ => rfl)
  | _ =>
    split
    · exact separator.bind fun _ => text
    · exact text

theorem replace_keeps (new : (call.operand 3).MayShow call.toSite terms) :
    call.Keeps terms call.replace call'.replace :=
  (textOrEmpty_keeps fits 0 shows).bind fun text => (position_keeps fits 1).bind fun start =>
    (length_keeps fits 2).bind fun count => (textOrEmpty_keeps fits 3 new).bind fun other =>
      .ok (splice_sound text start count other)

theorem positionOf_keeps (within : (call.operand 1).MayShow call.toSite terms)
    (folds : ∀ {e e' : Expr}, terms.Sound call.target e e' →
      terms.Sound call.target (fold e) (fold e')) :
    call.Keeps terms (call.positionOf fold) (call'.positionOf fold) := by
  rw [positionOf, positionOf, has_eq fits, dialect_eq fits]
  refine (textOrEmpty_keeps fits 0 shows).bind fun needle =>
    (textOrEmpty_keeps fits 1 within).bind fun haystack => ?_
  dsimp only
  split
  · exact (position_keeps fits 2).bind fun start =>
      .ok (positionFrom_sound (folds needle) (folds haystack) start)
  · obtain ⟨alike, obeys⟩ := folds needle
    obtain ⟨alike', obeys'⟩ := folds haystack
    exact .ok ⟨alike_position.2 ⟨alike', alike⟩,
      obeys_position.trans (Bool.and_eq_true_iff.2 ⟨obeys', obeys⟩)⟩

theorem find_keeps (within : (call.operand 1).MayShow call.toSite terms) :
    call.Keeps terms call.find call'.find :=
  positionOf_keeps fits shows within id

theorem search_keeps (within : (call.operand 1).MayShow call.toSite terms) :
    call.Keeps terms call.search call'.search :=
  (positionOf_keeps fits shows within fun good => by simp +decide [good]).bind fun place =>
    .ok (by simp [place])

variable (old : (call.operand 1).MayShow call.toSite terms)
  (new : (call.operand 2).MayShow call.toSite terms)

include new

theorem regexpReplace_keeps (fault : terms.allows (call.fault 1 .notText))
    (format : ∀ pattern, terms.allows (.invalidFormat pattern .notRegex)) :
    call.Keeps terms call.regexpReplace call'.regexpReplace := by
  rw [regexpReplace, regexpReplace, textLiteral_eq fits]
  refine (textLiteral_ends fault).same fun pattern => ?_
  split
  · exact (textOrEmpty_keeps fits 0 shows).bind fun text =>
      (textOrEmpty_keeps fits 2 new).bind fun other => .ok (by simp +decide [text, other])
  · exact .error (format pattern)

include old

theorem substituteAll_keeps : call.Keeps terms call.substituteAll call'.substituteAll :=
  (text_keeps fits 0 shows).bind fun text => (textOrEmpty_keeps fits 1 old).bind fun first =>
    (textOrEmpty_keeps fits 2 new).bind fun second => .ok (by simp +decide [text, first, second])

theorem substituteNth_keeps (fault : ∀ fault, terms.allows (call.fault 3 fault))
    (many : call.target.placement = .generated → terms.allows (.needsSubquery call.operation))
    (joined : call.target.dialect = .postgres → call.target.placement = .generated →
      "array_to_string" ∈ terms.stable) :
    call.Keeps terms call.substituteNth call'.substituteNth := by
  rw [substituteNth, substituteNth, occurrence_eq fits, dialect_eq fits]
  refine (occurrence_ends fault).same fun nth => ?_
  cases dialect : call.dialect with
  | postgres =>
    refine (textOrEmpty_keeps fits 0 shows).bind fun text =>
      (textOrEmpty_keeps fits 1 old).bind fun first =>
        (textOrEmpty_keeps fits 2 new).bind fun second => .ok ?_
    rw [Site.target_of_dialect dialect] at text first second ⊢
    exact substitutePostgres_sound text first second (joined dialect)
  | sqlite =>
    refine needSubquery_keeps fits many fun _ queries =>
      (textOrEmpty_keeps fits 0 shows).bind fun text =>
        (textOrEmpty_keeps fits 1 old).bind fun first =>
          (textOrEmpty_keeps fits 2 new).bind fun second => .ok ?_
    rw [Site.target_of_dialect dialect] at text first second ⊢
    exact substituteSqlite_sound queries text first second

end

end SheetSql.Call
