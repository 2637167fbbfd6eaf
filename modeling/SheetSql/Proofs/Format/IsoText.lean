import SheetSql.Proofs.Format.Slices
import SheetSql.Proofs.Matching.Groups
import SheetSql.Proofs.Meaning.Search

namespace SheetSql.Format

/-! The ISO text of a text of fixed width. -/

open Call Steps

def isoTexts (text? : DatePart → Option (List Char)) : List (List Char) :=
  let part := fun part default => (text? part).getD default
  [part .year ['0', '0', '0', '0'], ['-'], part .month ['0', '1'], ['-'], part .day ['0', '1'],
    [' '], part .hour ['0', '0'], [':'], part .minute ['0', '0'], [':'], part .second ['0', '0']] ++
    ((text? .millisecond).map fun millis => [['.'], millis]).getD []

section

variable {engine : Engine} {allowed : Act → Prop}

def GivesText (engine : Engine) (allowed : Act → Prop) (e : Expr) (cs : List Char) : Prop :=
  (e.run engine).Gives allowed (.value (.text cs))

theorem chain_concat (row : Row) (areIntegers : Bool) (first : List Char)
    (rest : List (List Char)) :
    row.chain .concat areIntegers ((first :: rest).map .text) =
      some (.text (first :: rest).flatten) := by
  have steps : ∀ start, (rest.map Value.text).foldlM (row.binary .concat areIntegers)
      (.text start) = some (.text (start ++ rest.flatten)) := by
    induction rest with
    | nil =>
      intro start
      rw [List.flatten_nil, List.append_nil]
      rfl
    | cons cs rest ih =>
      intro start
      rw [List.map_cons, List.foldlM_cons, List.flatten_cons, ← List.append_assoc]
      exact ih (start ++ cs)
  exact steps first

theorem run_isoText
    (parts : ∀ part, Option.Rel (GivesText engine allowed) (part? part) (text? part))
    (rest : List.Forall₂ (GivesText engine allowed) fraction
      (((text? .millisecond).map fun millis => [['.'], millis]).getD [])) :
    GivesText engine allowed (isoText part? fraction) (isoTexts text?).flatten := by
  have part : ∀ part default, GivesText engine allowed ((part? part).getD (.text default))
      ((text? part).getD default.toList) := by
    intro part default
    have related := parts part
    generalize part? part = e at related ⊢
    generalize text? part = cs at related ⊢
    cases related with
    | none => exact run_text default
    | some gives => exact gives
  have each : List.Forall₂ (GivesText engine allowed)
      ([(part? .year).getD (.text "0000"), .text "-", (part? .month).getD (.text "01"), .text "-",
        (part? .day).getD (.text "01"), .text " ", (part? .hour).getD (.text "00"), .text ":",
        (part? .minute).getD (.text "00"), .text ":", (part? .second).getD (.text "00")] ++
        fraction) (isoTexts text?) :=
    .cons (part .year "0000") <| .cons (run_text "-") <| .cons (part .month "01") <|
      .cons (run_text "-") <| .cons (part .day "01") <| .cons (run_text " ") <|
      .cons (part .hour "00") <| .cons (run_text ":") <| .cons (part .minute "00") <|
      .cons (run_text ":") <| .cons (part .second "00") rest
  refine run_chain ((isoTexts text?).map .text) ?_ (chain_concat _ _ _ _)
  rw [List.map_map]
  exact runEach_of_forall₂ (List.forall₂_map_right_iff.2 each)

theorem bounds_of_mem_placesFrom (member : place ∈ placesFrom (n + 1) cells) :
    n < place.2 ∧ place.2 - 1 + place.1.width ≤ n + (cells.map Cell.width).sum := by
  induction cells generalizing n with
  | nil => cases member
  | cons cell cells ih =>
    rw [List.map_cons, List.sum_cons]
    cases cell with
    | literal c =>
      obtain ⟨first, last⟩ := ih member
      exact ⟨Nat.lt_of_succ_lt first, by rw [Cell.width]; omega⟩
    | digits part =>
      rw [placesFrom_digits] at member
      rcases List.mem_cons.1 member with rfl | member
      · refine ⟨by simp, ?_⟩
        simp only [Cell.width]
        omega
      · obtain ⟨first, last⟩ := ih member
        exact ⟨by omega, by rw [Cell.width]; omega⟩

theorem mem_of_lookup {part : DatePart} {position : Nat} {places : List (DatePart × Nat)}
    (found : places.lookup part = some position) : (part, position) ∈ places := by
  obtain ⟨before, after, rfl, -⟩ := List.lookup_eq_some_iff.1 found
  exact List.mem_append_right before List.mem_cons_self

variable {layout : Layout} {cs : List Char} {t : Expr}

def Layout.slice? (layout : Layout) (cs : List Char) (part : DatePart) : Option (List Char) :=
  (layout.position? part).map fun position => slice cs (part, position)

theorem run_substr (place : DatePart × Nat) (first : 1 ≤ place.2) (may : ∀ act, allowed act)
    (value : GivesText engine allowed t cs) :
    GivesText engine allowed (.call "SUBSTR" [t, .int place.2, .int place.1.width])
      (slice cs place) := by
  refine run_call (by decide) (runEach_cons value (runEach_cons (run_nat place.2)
    (runEach_cons (run_nat place.1.width) runEach_nil))) ?_ (may _)
  have whole : (1 : Int) ≤ place.2 := by omega
  have result : Value.apply "SUBSTR" [.text cs, .int place.2, .int place.1.width] =
      some (.text (slice cs place)) := by
    simp [Value.apply, Value.applyTexts, whole, slice]
  exact (engine.apply_scalars (by decide) _).trans (congrArg _ result)

theorem run_isoByPosition (may : ∀ act, allowed act) (value : GivesText engine allowed t cs) :
    GivesText engine allowed (isoByPosition t layout) (isoTexts (layout.slice? cs)).flatten := by
  have parts : ∀ part, Option.Rel (GivesText engine allowed)
      ((layout.position? part).map fun position : Nat =>
        .call "SUBSTR" [t, .int position, .int part.width]) (layout.slice? cs part) := by
    intro part
    rw [Layout.slice?]
    cases found : layout.position? part with
    | none => exact .none
    | some position =>
      have first := (bounds_of_mem_placesFrom (mem_of_lookup found)).1
      exact .some (run_substr (part, position) first may value)
  refine run_isoText parts ?_
  dsimp only
  have millis := parts .millisecond
  generalize layout.slice? cs .millisecond = text? at millis ⊢
  generalize Option.map _ (layout.position? .millisecond) = millis? at millis ⊢
  cases millis with
  | none => exact .nil
  | some gives => exact .cons (run_text ".") (.cons gives .nil)

theorem apply_lpad (length : cs.length = width) :
    Value.apply "LPAD" [.text cs, .int width, .text ['0']] = some (.text cs) := by
  have full : cs.take width = cs := List.take_of_length_le length.le
  simp [Value.apply, Value.applyTexts, length, full]

theorem rel_capture? {known : List Capture} {places : List (DatePart × Nat)} {captures : Captures}
    (all : List.Forall₂ (fun capture place => capture.part = place.1 ∧
      captures.at? capture.index = some (slice cs place)) known places) (part : DatePart) :
    Option.Rel (fun capture position => captures.at? capture.index =
      some (slice cs (part, position))) (known.find? (·.part == part)) (places.lookup part) := by
  induction all with
  | nil => exact .none
  | @cons capture place known places both rest ih =>
    obtain ⟨here, position⟩ := place
    obtain ⟨same, text⟩ := both
    rw [List.find?_cons, List.lookup_cons, same]
    by_cases found : here = part
    · subst found
      simp only [beq_self_eq_true]
      exact .some text
    · rw [beq_false_of_ne found, beq_false_of_ne (Ne.symm found)]
      exact ih

theorem run_isoByCapture {t : Expr} {template : Template} (may : ∀ act, allowed act)
    (value : (t.run engine).Gives allowed (.texts (Engine.groupTexts groups captures)))
    (inside : ∀ {index text}, captures.at? index = some text → 1 ≤ index ∧ index ≤ groups)
    (wide : ∀ place ∈ layout.places, (slice cs place).length = place.1.width)
    (all : List.Forall₂ (fun capture place => capture.part = place.1 ∧
      captures.at? capture.index = some (slice cs place)) template.captures layout.places) :
    GivesText engine allowed (isoByCapture t template)
      (isoTexts (layout.slice? cs)).flatten := by
  have group : ∀ part, Option.Rel
      (fun e text => GivesText engine allowed e text ∧ text.length = part.width)
      ((template.capture? part).map fun capture => t.subscript (.int capture.index))
      (layout.slice? cs part) := by
    intro part
    have related : Option.Rel _ (template.capture? part) (layout.position? part) :=
      rel_capture? all part
    rw [Layout.slice?]
    cases found : layout.position? part with
    | none =>
      rw [found] at related
      generalize template.capture? part = capture? at related ⊢
      cases related
      exact .none
    | some position =>
      rw [found] at related
      generalize template.capture? part = capture? at related ⊢
      cases related with
      | some captured =>
        obtain ⟨first, last⟩ := inside captured
        refine .some ⟨run_subscript value (run_nat _) ?_, wide _ (mem_of_lookup found)⟩
        rw [Engine.subscript_groupTexts first last, captured]
        rfl
  have parts : ∀ part, Option.Rel (GivesText engine allowed)
      (((template.capture? part).map fun capture => t.subscript (.int capture.index)).map
        fun group => .call "LPAD" [group, .int part.width, .text "0"]) (layout.slice? cs part) := by
    intro part
    have related := group part
    generalize (template.capture? part).map _ = group? at related ⊢
    generalize layout.slice? cs part = text? at related ⊢
    cases related with
    | none => exact .none
    | some both =>
      obtain ⟨gives, length⟩ := both
      refine .some (run_call (by decide) (runEach_cons gives (runEach_cons (run_nat part.width)
        (runEach_cons (run_text "0") runEach_nil))) ?_ (may _))
      exact (engine.apply_scalars (by decide) _).trans (congrArg _ (apply_lpad length))
  refine run_isoText parts ?_
  dsimp only
  have millis := group .millisecond
  generalize layout.slice? cs .millisecond = text? at millis ⊢
  generalize Option.map _ (template.capture? .millisecond) = group? at millis ⊢
  cases millis with
  | none => exact .nil
  | some both => exact .cons (run_text ".") (.cons both.1 .nil)

end

theorem readsBack_glob (layout : Layout) : ∀ item ∈ layout.glob, Glob.ReadsBack item := by
  intro item member
  obtain ⟨cell, -, member⟩ := List.mem_flatMap.1 member
  cases cell with
  | literal c =>
    rw [List.mem_singleton.1 member]
    exact Glob.readsBack_char c
  | digits part =>
    rw [List.eq_of_mem_replicate member]
    exact Glob.readsBack_digit

theorem length_slice {layout : Layout} (accepted : layout.glob.accepts cs = true) :
    ∀ place ∈ layout.places, (slice cs place).length = place.1.width := by
  intro place member
  obtain ⟨-, last⟩ := bounds_of_mem_placesFrom member
  have length := length_of_accepts accepted
  rw [slice, List.length_take, List.length_drop]
  omega

theorem run_isoByCapture_regexpMatch {layout : Layout} {template : Template} {t : Expr}
    (fits : List.Forall₂ Fits layout.cells template.pieces)
    (stands : template.regex.fits .whole = true) (accepted : layout.glob.accepts cs = true)
    (bounded : layout.IsBounded cs) (may : ∀ act, allowed act)
    (value : GivesText engine allowed t cs) :
    GivesText engine allowed
      (isoByCapture (.call "regexp_match" [t, .text template.regex.text]) template)
      (isoTexts (layout.slice? cs)).flatten := by
  have matches_iff := Layout.matches_iff fits accepted bounded
  obtain ⟨captures, matched, found⟩ :=
    exists_of_accepts engine stands ⟨_, (matches_iff _).2 rfl⟩
  have groups := run_call (by decide)
    (runEach_cons value (runEach_cons (run_text template.regex.text) runEach_nil)) found (may _)
  have inside : ∀ {index text}, captures.at? index = some text →
      1 ≤ index ∧ index ≤ template.regex.groups := by
    intro index text captured
    obtain ⟨_, _, _, -, reads⟩ := matched
    have bounds := Regex.index_of_reads _ _ reads _ (Captures.mem_of_at? captured)
    dsimp only at bounds
    omega
  refine run_isoByCapture may groups inside (length_slice accepted) ?_
  rw [(matches_iff captures).1 matched]
  exact forall₂_captures fits cs 1 1

/--
A format of fixed width has a template with the same parts. Every text of the layout whose parts
are in their ranges matches the template, whose groups capture the texts at the places of the
layout and nothing else, and so the ISO text is the same on both engines.
-/
theorem fixed_width_readings_agree {format : String} {layout : Layout}
    (fixed : Layout.read format = .ok layout) :
    ∃ template, Template.read format = .ok template ∧ template.isZoned = false ∧
      (∀ capture ∈ template.captures, capture.isName = false) ∧
      template.captures.map Capture.part = layout.places.map Prod.fst ∧
      ∃ regex glob, Regex.ofText? template.regex.text = some regex ∧
        Glob.ofText? layout.glob.text = some glob ∧
        ∀ cs, glob.accepts cs = true → layout.IsBounded cs →
          (∃ captures, regex.Matches Chars.isSpace cs captures) ∧
          (∀ captures, regex.Matches Chars.isSpace cs captures →
            List.Forall₂ (fun capture place => captures.at? capture.index = some (slice cs place))
              template.captures layout.places) ∧
          ∀ (postgres sqlite : Engine) (t s : Expr),
            (t.run postgres).result? = some (.value (.text cs)) →
            (s.run sqlite).result? = some (.value (.text cs)) →
            ∃ iso : List Char,
              ((isoByCapture (.call "regexp_match" [t, .text template.regex.text]) template).run
                postgres).result? = some (.value (.text iso)) ∧
              ((isoByPosition s layout).run sqlite).result? = some (.value (.text iso)) := by
  obtain ⟨template, read, fits⟩ := exists_template fixed
  obtain ⟨parts, numbers⟩ := capturesFrom_of_fits fits 1 1
  have stands := fits_template fun token => mem_tokens_of_read read
  obtain ⟨regex, spelled, same⟩ := Regex.ofText?_text Chars.isSpace stands
  obtain ⟨glob, globSpelled, accepts⟩ := Glob.ofText?_text (readsBack_glob layout)
  refine ⟨template, read, isZoned_of_fits fits, numbers, parts, regex, glob, spelled, globSpelled,
    ?_⟩
  intro cs accepted bounded
  rw [accepts] at accepted
  have matches_iff := fun captures : Captures =>
    same.matches_iff.trans (Layout.matches_iff fits accepted bounded captures)
  refine ⟨⟨_, (matches_iff _).2 rfl⟩, ?_, ?_⟩
  · intro captures matched
    rw [(matches_iff captures).1 matched]
    exact (forall₂_captures fits cs 1 1).imp fun _ _ both => both.2
  · intro postgres sqlite t s value other
    rw [result?_eq_some] at value other
    exact ⟨(isoTexts (layout.slice? cs)).flatten,
      result?_eq_some.2 (run_isoByCapture_regexpMatch fits stands accepted bounded
        (fun _ => trivial) value),
      result?_eq_some.2 (run_isoByPosition (fun _ => trivial) other)⟩

def touching : Layout := ⟨[.digits .day, .digits .month, .literal '1', .digits .year]⟩

theorem isBounded_touching : touching.IsBounded "290212024".toList := by
  intro place member bounds isBounds
  have known : place = (.day, 1) ∨ place = (.month, 3) ∨ place = (.year, 6) := by
    simpa [touching, Layout.places, placesFrom, DatePart.width] using member
  rcases known with rfl | rfl | rfl
  · cases isBounds
    decide
  · cases isBounds
    decide
  · cases isBounds

theorem fixed_width_readings_agree_touching :
    Layout.read "DDMM\"1\"YYYY" = .ok touching ∧
      ∃ template regex captures, Template.read "DDMM\"1\"YYYY" = .ok template ∧
        Regex.ofText? template.regex.text = some regex ∧
        regex.Matches Chars.isSpace "290212024".toList captures ∧
        List.Forall₂ (fun capture place => captures.at? capture.index =
          some (slice "290212024".toList place)) template.captures touching.places := by
  have fixed : Layout.read "DDMM\"1\"YYYY" = .ok touching := by rfl
  obtain ⟨template, read, -, -, -, regex, glob, spelled, globSpelled, texts⟩ :=
    fixed_width_readings_agree fixed
  have isGlob : Glob.ofText? touching.glob.text = some touching.glob := by rfl
  cases globSpelled.symm.trans isGlob
  obtain ⟨⟨captures, matched⟩, slices, -⟩ := texts "290212024".toList (by rfl) isBounded_touching
  exact ⟨fixed, template, regex, captures, read, spelled, matched, slices captures matched⟩

end SheetSql.Format
