import SheetSql.Proofs.Format.IsoText

namespace SheetSql

/-! Where the parts of a format of fixed width stand. -/

theorem Text.sameLetters_of_leads (starts : leads lead cs = true) :
    sameLetters lead (cs.take lead.length) = true := by
  induction lead generalizing cs with
  | nil => rfl
  | cons p lead ih =>
    cases cs with
    | nil => cases starts
    | cons c cs =>
      rw [leads_cons, Bool.and_eq_true] at starts
      have rest := ih starts.2
      rw [sameLetters, beq_iff_eq] at rest ⊢
      rw [List.length_cons, List.take_succ_cons, List.map_cons, List.map_cons,
        eq_of_beq starts.1, rest]

namespace Format

open Call Steps

/-- The cells that a format spells, from inside quotes on or from outside. -/
inductive Spells : Bool → List Char → List Cell → Prop
  | finish : Spells false [] []
  | word {part : DatePart} {word : List Char}
      (same : Text.sameLetters part.word.toList word = true) (rest : Spells false cs cells) :
      Spells false (word ++ cs) (.digits part :: cells)
  | separator {c : Char} (other : c.isAlphanum = false) (ascii : c.toNat < 128)
      (noQuote : c ≠ Text.doubleQuote) (rest : Spells false cs cells) :
      Spells false (c :: cs) (.literal c :: cells)
  | opening (rest : Spells true cs cells) : Spells false (Text.doubleQuote :: cs) cells
  | closing (rest : Spells false cs cells) : Spells true (Text.doubleQuote :: cs) cells
  | quoted (noQuote : c ≠ Text.doubleQuote) (noEscape : c ≠ '\\') (rest : Spells true cs cells) :
      Spells true (c :: cs) (.literal c :: cells)
  | escaped (c : Char) (rest : Spells true cs cells) :
      Spells true ('\\' :: c :: cs) (.literal c :: cells)

def ScanState.isQuoted : ScanState → Bool
  | .plain _ => false
  | .quoted | .escaped => true

/-- What is still to be read, with the backslash that has been read already. -/
def ScanState.remaining : ScanState → List Char → List Char
  | .plain skip, cs => cs.drop skip
  | .quoted, cs => cs
  | .escaped, cs => '\\' :: cs

theorem spells_of_distinct
    (read : distinct Cell.part? .partTwice seen (scan readCell .literal state cs) = .ok cells) :
    Spells state.isQuoted (state.remaining cs) cells := by
  fun_induction scan readCell .literal state cs generalizing seen cells with
  | case1 =>
    cases read
    rw [ScanState.remaining, List.drop_nil]
    exact .finish
  | case2 => cases read
  | case3 => cases read
  | case4 skip c rest ih => exact ih read
  | case5 rest ih => exact .opening (ih read)
  | case6 => cases read
  | case7 c rest noQuote cell more reads ih =>
    obtain ⟨-, tail, rfl, others⟩ := exists_of_distinct_cons read
    rcases readCell_eq_ok reads with ⟨part, leads, same, rfl⟩ | ⟨other, ascii, same, rfl⟩
    · cases same
      have after : (c :: rest).drop part.word.toList.length =
          rest.drop (part.word.length - 1) := by
        cases part <;> rfl
      have spelled := ih others
      rw [ScanState.remaining, ← after] at spelled
      rw [ScanState.remaining, List.drop_zero,
        ← List.take_append_drop part.word.toList.length (c :: rest)]
      exact .word (Text.sameLetters_of_leads leads) spelled
    · cases same
      exact .separator other ascii noQuote (ih others)
  | case8 c rest noQuote more reads ih =>
    rcases readCell_eq_ok reads with ⟨_, -, same, -⟩ | ⟨-, -, same, -⟩ <;> cases same
  | case9 rest ih => exact .closing (ih read)
  | case10 rest noQuote ih => exact ih read
  | case11 c rest noQuote noEscape ih =>
    obtain ⟨-, tail, rfl, more⟩ := exists_of_distinct_cons read
    exact .quoted noQuote noEscape (ih more)
  | case12 c rest ih =>
    obtain ⟨-, tail, rfl, more⟩ := exists_of_distinct_cons read
    exact .escaped c (ih more)

theorem parts_placesFrom (position : Nat) (cells : List Cell) :
    (placesFrom position cells).map Prod.fst = cells.filterMap Cell.part? := by
  induction cells generalizing position with
  | nil => rfl
  | cons cell cells ih =>
    cases cell with
    | literal c => exact ih (position + 1)
    | digits part => exact congrArg (part :: ·) (ih (position + part.width))

theorem pairwise_placesFrom (n : Nat) (cells : List Cell) :
    (placesFrom (n + 1) cells).Pairwise fun one other => one.2 + one.1.width ≤ other.2 := by
  induction cells generalizing n with
  | nil => exact .nil
  | cons cell cells ih =>
    cases cell with
    | literal c => exact ih (n + 1)
    | digits part =>
      rw [placesFrom_digits]
      refine .cons (fun place member => ?_) (ih _)
      have after := (bounds_of_mem_placesFrom member).1
      dsimp only
      omega

/-- The characters of a text by their positions, or nothing for any digit. -/
def Cell.shape : Cell → List (Option Char)
  | .literal c => [some c]
  | .digits part => List.replicate part.width none

def Layout.shape (layout : Layout) : List (Option Char) := layout.cells.flatMap Cell.shape

def Fills : Option Char → Char → Prop
  | none, c => c.isDigit = true
  | some sign, c => c = sign

theorem length_shape (cell : Cell) : cell.shape.length = cell.width := by
  cases cell with
  | literal c => rfl
  | digits part => exact List.length_replicate

/-- The free positions of a layout are those of its parts. -/
theorem getElem?_shape (n i : Nat) (cells : List Cell) :
    (cells.flatMap Cell.shape)[i]? = some none ↔
      ∃ place ∈ placesFrom (n + 1) cells,
        place.2 ≤ n + i + 1 ∧ n + i + 1 < place.2 + place.1.width := by
  induction cells generalizing n i with
  | nil => simp [placesFrom]
  | cons cell cells ih =>
    have later : ∀ place ∈ placesFrom (n + cell.width + 1) cells, n + cell.width < place.2 :=
      fun place member => (bounds_of_mem_placesFrom member).1
    rw [List.flatMap_cons, List.getElem?_append, length_shape]
    by_cases inside : i < cell.width
    · rw [if_pos inside]
      cases cell with
      | literal c =>
        have first : i = 0 := Nat.lt_one_iff.1 inside
        subst first
        refine ⟨fun free => absurd free (by simp [Cell.shape]), ?_⟩
        rintro ⟨place, member, start, -⟩
        exact absurd (later place member) (Nat.not_lt.2 start)
      | digits part =>
        rw [Cell.width] at inside
        rw [placesFrom_digits, Cell.shape, List.getElem?_replicate, if_pos inside]
        refine ⟨fun _ => ⟨(part, n + 1), List.mem_cons_self, ?_⟩, fun _ => rfl⟩
        dsimp only
        omega
    · rw [if_neg inside, ih (n + cell.width)]
      have same : n + cell.width + (i - cell.width) + 1 = n + i + 1 := by omega
      rw [same]
      cases cell with
      | literal c => exact Iff.rfl
      | digits part =>
        rw [placesFrom_digits, List.exists_mem_cons_iff]
        refine ⟨.inr, ?_⟩
        rintro (⟨-, short⟩ | found)
        · rw [Cell.width] at inside
          dsimp only at short
          omega
        · exact found

def itemOf : Option Char → GlobItem
  | none => .digit
  | some c => .char c

theorem glob_eq_map_shape (layout : Layout) : layout.glob = layout.shape.map itemOf := by
  have each : Cell.glob = fun cell => cell.shape.map itemOf := by
    funext cell
    cases cell with
    | literal c => rfl
    | digits part => rw [Cell.glob, Cell.shape, List.map_replicate, itemOf]
  rw [Layout.glob, Layout.shape, List.map_flatMap, each]

theorem accepts_iff_fills :
    Glob.accepts (shape.map itemOf) cs = true ↔ List.Forall₂ Fills shape cs := by
  induction shape generalizing cs with
  | nil => simp [Glob.accepts]
  | cons sign shape ih =>
    cases cs with
    | nil => cases sign <;> simp [itemOf, GlobItem.digit, Glob.accepts, Glob.oneThen]
    | cons c cs =>
      cases sign <;>
        simp [itemOf, GlobItem.digit, Glob.accepts, Glob.oneThen, Fills, has_digits, ih]

theorem isDigits_slice {layout : Layout} (filled : List.Forall₂ Fills layout.shape cs)
    (member : place ∈ layout.places) : Decimal.isDigits (slice cs place) = true := by
  refine List.all_eq_true.2 fun c inside => ?_
  obtain ⟨j, found⟩ := List.mem_iff_getElem?.1 inside
  rw [slice, List.getElem?_take] at found
  split at found
  · next short =>
      rw [List.getElem?_drop] at found
      have first := (bounds_of_mem_placesFrom member).1
      have free := (getElem?_shape 0 (place.2 - 1 + j) layout.cells).2
        ⟨place, member, by omega, by omega⟩
      exact List.forall₂_zip filled
        (List.mem_of_getElem? (List.getElem?_zip_eq_some.2 ⟨free, found⟩))
  · cases found

/-- A shape written down, with a zero for any digit. -/
def shapeOf (sample : String) : List (Option Char) :=
  sample.toList.map fun c => if c = '0' then none else some c

def isoSample (fraction : Bool) : String :=
  if fraction then "0000-00-00 00:00:00.000" else "0000-00-00 00:00:00"

theorem fills_digits (length : cs.length = n) (digits : Decimal.isDigits cs = true) :
    List.Forall₂ Fills (List.replicate n none) cs := by
  induction cs generalizing n with
  | nil =>
    cases length
    exact .nil
  | cons c cs ih =>
    cases length
    rw [Decimal.isDigits, List.all_cons, Bool.and_eq_true] at digits
    exact .cons digits.1 (ih rfl digits.2)

theorem fills_isoTexts (parts : ∀ {part text}, text? part = some text →
      text.length = part.width ∧ Decimal.isDigits text = true) :
    List.Forall₂ Fills (shapeOf (isoSample (text? .millisecond).isSome))
      (isoTexts text?).flatten := by
  have part (part : DatePart) (default : List Char)
      (plain : default.length = part.width ∧ Decimal.isDigits default = true) :
      List.Forall₂ Fills (List.replicate part.width none) ((text? part).getD default) := by
    cases found : text? part with
    | none => exact fills_digits plain.1 plain.2
    | some text => exact fills_digits (parts found).1 (parts found).2
  have sign (c : Char) : List.Forall₂ Fills [some c] [c] := .cons rfl .nil
  have whole (shape : List (List (Option Char))) (rest : List.Forall₂ (List.Forall₂ Fills) shape
      (((text? .millisecond).map fun millis => [['.'], millis]).getD [])) :
      List.Forall₂ Fills ((shapeOf "0000-00-00 00:00:00") ++ shape.flatten)
        (isoTexts text?).flatten :=
    List.rel_flatten <| .cons (part .year _ (by decide)) <| .cons (sign '-') <|
      .cons (part .month _ (by decide)) <| .cons (sign '-') <|
      .cons (part .day _ (by decide)) <| .cons (sign ' ') <|
      .cons (part .hour _ (by decide)) <| .cons (sign ':') <|
      .cons (part .minute _ (by decide)) <| .cons (sign ':') <|
      .cons (part .second _ (by decide)) rest
  cases millis : text? .millisecond with
  | none =>
    rw [millis] at whole
    exact whole [] .nil
  | some text =>
    rw [millis] at whole
    obtain ⟨length, digits⟩ := parts millis
    have longer : shapeOf (isoSample true) = shapeOf (isoSample false) ++
        [[some '.'], List.replicate 3 none].flatten := by decide
    rw [Option.isSome_some, longer]
    exact whole _ (.cons (sign '.') (.cons (fills_digits length digits) .nil))

/--
A format of fixed width tells where its parts stand: every part once, with year, month and day among
them, and one after the other. The pattern of SQLite accepts the texts that have digits at the
positions of the parts and the characters of the format at all others, and the ISO text of such a
text has its full number of digits.
-/
theorem layout_locates_parts {format : String} {layout : Layout}
    (fixed : Layout.read format = .ok layout) :
    Spells false format.toList layout.cells ∧
      (layout.places.map Prod.fst).Nodup ∧
      (∀ part ∈ [DatePart.year, .month, .day], part ∈ layout.places.map Prod.fst) ∧
      (layout.places.Pairwise fun one other => one.2 + one.1.width ≤ other.2) ∧
      (∀ i, layout.shape[i]? = some none ↔
        ∃ place ∈ layout.places, place.2 ≤ i + 1 ∧ i + 1 < place.2 + place.1.width) ∧
      ∃ glob, Glob.ofText? layout.glob.text = some glob ∧
        ∀ cs, (glob.accepts cs = true ↔ List.Forall₂ Fills layout.shape cs) ∧
          (glob.accepts cs = true →
            cs.length = (layout.cells.map Cell.width).sum ∧
            (∀ place ∈ layout.places, (slice cs place).length = place.1.width ∧
              Decimal.isDigits (slice cs place) = true) ∧
            ∀ (engine : Engine) (t : Expr), (t.run engine).result? = some (.value (.text cs)) →
              ∃ iso, ((isoByPosition t layout).run engine).result? = some (.value (.text iso)) ∧
                List.Forall₂ Fills
                  (shapeOf (isoSample (layout.position? .millisecond).isSome)) iso) := by
  obtain ⟨cells, complete⟩ := cells_of_read fixed
  obtain ⟨glob, spelled, same⟩ := Glob.ofText?_text (readsBack_glob layout)
  refine ⟨spells_of_distinct cells, ?_, ?_, pairwise_placesFrom 0 _, ?_, glob, spelled, ?_⟩
  · rw [Layout.places, parts_placesFrom]
    exact (nodup_of_distinct cells).1
  · intro part required
    have present := List.all_eq_true.1 complete part required
    obtain ⟨position, found⟩ := Option.isSome_iff_exists.1 present
    exact List.mem_map.2 ⟨_, mem_of_lookup found, rfl⟩
  · intro i
    have free := getElem?_shape 0 i layout.cells
    rwa [Nat.zero_add i] at free
  · intro cs
    have fills : glob.accepts cs = true ↔ List.Forall₂ Fills layout.shape cs := by
      rw [same, glob_eq_map_shape]
      exact accepts_iff_fills
    refine ⟨fills, fun accepted => ?_⟩
    have filled := fills.1 accepted
    rw [same] at accepted
    have slices : ∀ place ∈ layout.places, (slice cs place).length = place.1.width ∧
        Decimal.isDigits (slice cs place) = true := fun place member =>
      ⟨length_slice accepted place member, isDigits_slice filled member⟩
    refine ⟨length_of_accepts accepted, slices, fun engine t value => ?_⟩
    rw [result?_eq_some] at value
    refine ⟨_, result?_eq_some.2 (run_isoByPosition (fun _ => trivial) value), ?_⟩
    have parts : ∀ {part text}, layout.slice? cs part = some text →
        text.length = part.width ∧ Decimal.isDigits text = true := by
      intro part text found
      obtain ⟨position, placed, rfl⟩ := Option.map_eq_some_iff.1 found
      exact slices _ (mem_of_lookup placed)
    have shown := fills_isoTexts parts
    rwa [Layout.slice?, Option.isSome_map] at shown

def starred : Layout :=
  ⟨[.digits .day, .literal '*', .literal 'é', .literal ']', .digits .year, .literal '?',
    .digits .month]⟩

theorem layout_locates_parts_starred :
    Layout.read "DD\"*é]\"YYYY?mm" = .ok starred ∧
      ∀ engine : Engine, ∃ iso,
        ((isoByPosition (.text "29*é]2024?02") starred).run engine).result? =
          some (.value (.text iso)) ∧ List.Forall₂ Fills (shapeOf (isoSample false)) iso := by
  have fixed : Layout.read "DD\"*é]\"YYYY?mm" = .ok starred := by rfl
  obtain ⟨-, -, -, -, -, glob, spelled, texts⟩ := layout_locates_parts fixed
  obtain ⟨fills, accepted⟩ := texts "29*é]2024?02".toList
  have filled : List.Forall₂ Fills starred.shape "29*é]2024?02".toList :=
    accepts_iff_fills.1 (by rfl)
  refine ⟨fixed, fun engine => (accepted (fills.2 filled)).2.2 engine _ ?_⟩
  exact result?_eq_some.2 (run_text _)

end Format

end SheetSql
