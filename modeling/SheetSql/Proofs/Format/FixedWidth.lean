import Mathlib.Data.List.DropRight
import Mathlib.Data.List.Forall2
import SheetSql.Proofs.Format.Words
import SheetSql.Proofs.Meaning.Value

namespace SheetSql

/-! Formats of fixed width as templates. -/

theorem Chars.isSpace_of_isBlank (blank : Text.isBlank c = true) (ascii : c.toNat < 128) :
    isSpace c = true := by
  have table : ∀ n < 128, Text.isBlank (Char.ofNat n) = true → isSpace (Char.ofNat n) = true := by
    decide
  have row := table c.toNat ascii
  rw [Char.ofNat_toNat] at row
  exact row blank

namespace Format

section

variable {α κ : Type} [DecidableEq κ] {key : α → Option κ} {twice : κ → FormatFault}
  {seen : List κ} {piece : α} {items : List (Except FormatFault α)}

theorem distinct_cons (fresh : ∀ k, key piece = some k → k ∉ seen)
    (rest : distinct key twice ((key piece).toList ++ seen) items = .ok tail) :
    distinct key twice seen (.ok piece :: items) = .ok (piece :: tail) := by
  rw [distinct]
  cases isKey : key piece with
  | none =>
    rw [isKey] at rest
    change (distinct key twice seen items).map (piece :: ·) = _
    rw [show distinct key twice seen items = .ok tail from rest]
    rfl
  | some k =>
    rw [isKey] at rest
    simp only [if_neg (fresh k isKey)]
    rw [show distinct key twice (k :: seen) items = .ok tail from rest]
    rfl

theorem exists_of_distinct_cons (read : distinct key twice seen (.ok piece :: items) = .ok pieces) :
    (∀ k, key piece = some k → k ∉ seen) ∧ ∃ tail, pieces = piece :: tail ∧
      distinct key twice ((key piece).toList ++ seen) items = .ok tail := by
  have mapped : ∀ {result : Except FormatFault (List α)},
      result.map (piece :: ·) = .ok pieces → ∃ tail, pieces = piece :: tail ∧
        result = .ok tail := by
    intro result same
    cases result with
    | error fault => cases same
    | ok tail =>
      cases same
      exact ⟨tail, rfl, rfl⟩
  rw [distinct] at read
  cases isKey : key piece with
  | none =>
    rw [isKey] at read
    exact ⟨nofun, mapped read⟩
  | some k =>
    rw [isKey] at read
    dsimp only at read
    split at read
    · cases read
    · next fresh =>
        refine ⟨?_, mapped read⟩
        intro other same
        cases same
        exact fresh

theorem nodup_of_distinct (read : distinct key twice seen items = .ok pieces) :
    (pieces.filterMap key).Nodup ∧ ∀ k ∈ pieces.filterMap key, k ∉ seen := by
  induction items generalizing seen pieces with
  | nil =>
    cases read
    exact ⟨List.nodup_nil, by simp⟩
  | cons item items ih =>
    cases item with
    | error fault => cases read
    | ok piece =>
      obtain ⟨fresh, tail, rfl, later⟩ := exists_of_distinct_cons read
      obtain ⟨nodup, apart⟩ := ih later
      cases isKey : key piece with
      | none =>
        rw [List.filterMap_cons_none isKey]
        rw [isKey] at apart
        exact ⟨nodup, apart⟩
      | some k =>
        rw [List.filterMap_cons_some isKey]
        simp only [isKey, Option.toList_some, List.singleton_append] at apart
        refine ⟨List.nodup_cons.2 ⟨?_, nodup⟩, ?_⟩
        · intro member
          exact apart k member List.mem_cons_self
        · intro k' member
          rcases List.mem_cons.1 member with rfl | member
          · exact fresh _ isKey
          · exact fun old => apart k' member (List.mem_cons_of_mem _ old)

end

inductive Fits : Cell → Piece → Prop
  | literal (c : Char) : Fits (.literal c) (.literal c)
  | blank {c : Char} (isBlank : Chars.isSpace c = true) : Fits (.literal c) .blank
  | digits (part : DatePart) : Fits (.digits part) (.field (numberToken part))

def slotsOf (parts : List DatePart) : List Slot := parts.filterMap fun part => (numberToken part).slot

theorem slot_inj (first : (numberToken part).slot = some slot)
    (second : (numberToken other).slot = some slot) : part = other := by
  have same := first.trans second.symm
  cases part <;> cases other <;> first | rfl | cases same

theorem Fits.fresh (fits : Fits cell piece) (fresh : ∀ part, cell.part? = some part → part ∉ seen) :
    ∀ slot, piece.slot? = some slot → slot ∉ slotsOf seen := by
  cases fits with
  | literal c => exact nofun
  | blank isBlank => exact nofun
  | digits part =>
    intro slot isSlot member
    obtain ⟨other, known, same⟩ := List.mem_filterMap.1 member
    rw [← slot_inj isSlot same] at known
    exact fresh part rfl known

theorem Fits.slotsOf_append (fits : Fits cell piece) (seen : List DatePart) :
    slotsOf (cell.part?.toList ++ seen) = piece.slot?.toList ++ slotsOf seen := by
  cases fits with
  | literal c => rfl
  | blank isBlank => rfl
  | digits part => cases part <;> rfl

theorem exists_part_of_leads {p : Char} (isLetter : p.toLower.isAlpha = true)
    (leads : Text.leads (p :: lead) cs = true)
    (read : distinct Cell.part? .partTwice seen (scan readCell .literal (.plain 0) cs) =
      .ok cells) : ∃ part : DatePart, part ∉ seen ∧ Text.leads part.word.toList cs = true := by
  cases cs with
  | nil => cases leads
  | cons c rest =>
    have letter : c.isAlphanum = true := by
      refine Bool.eq_true_of_not_eq_false fun other => ?_
      rw [Text.leads_of_not_isAlphanum isLetter other] at leads
      cases leads
    have noQuote : c ≠ Text.doubleQuote := by
      intro quote
      rw [quote] at letter
      cases letter
    rw [scan, if_neg noQuote] at read
    split at read
    · cases read
    · next piece more reads =>
        rcases readCell_eq_ok reads with ⟨part, starts, isPart, -⟩ | ⟨other, -⟩
        · cases isPart
          exact ⟨part, (exists_of_distinct_cons read).1 part rfl, starts⟩
        · rw [letter] at other
          cases other
    · next more reads =>
        rcases readCell_eq_ok reads with ⟨_, -, isPart, -⟩ | ⟨-, -, isPart, -⟩ <;> cases isPart

theorem longest_of_read (read : distinct Cell.part? .partTwice (part :: seen)
      (scan readCell .literal (.plain (part.word.length - 1)) rest) = .ok cells) :
    ∀ word ∈ longerWords part, Text.leads word.toList (c :: rest) = false := by
  have table : ((longerWords part).all fun word =>
      word.toList == part.word.toList ++ word.toList.drop part.word.length &&
        (word.toList.drop part.word.length).head?.any (·.toLower.isAlpha) &&
        DatePart.all.all fun other => other == part ||
          !Text.agree (word.toList.drop part.word.length) other.word.toList) = true := by
    cases part <;> rfl
  have after : (c :: rest).drop part.word.toList.length = rest.drop (part.word.length - 1) := by
    cases part <;> rfl
  intro word longer
  have row := List.all_eq_true.1 table word longer
  rw [Bool.and_eq_true, Bool.and_eq_true, beq_iff_eq] at row
  obtain ⟨⟨split, isLetter⟩, only⟩ := row
  refine Bool.eq_false_iff.2 fun starts => ?_
  rw [split] at starts
  have more := Text.leads_append starts
  rw [after] at more
  rw [scan_plain] at read
  cases letters : word.toList.drop part.word.length with
  | nil =>
    rw [letters] at isLetter
    cases isLetter
  | cons p lead =>
    rw [letters] at isLetter more only
    obtain ⟨other, fresh, leads⟩ := exists_part_of_leads isLetter more read
    have known : other ∈ DatePart.all := by cases other <;> decide
    have same := List.all_eq_true.1 only other known
    rw [Text.agree_of_leads more leads] at same
    exact fresh (by simpa using Or.inl (eq_of_beq (by simpa using same)))

theorem exists_pieces
    (read : distinct Cell.part? .partTwice seen (scan readCell .literal state cs) = .ok cells) :
    ∃ pieces, distinct Piece.slot? .slotTwice (slotsOf seen)
        (scan readPiece .literal state cs) = .ok pieces ∧
      List.Forall₂ Fits cells pieces := by
  -- What one step adds to what the rest of the format gives.
  have step : ∀ {cell : Cell} {piece : Piece} {seen : List DatePart} {cells : List Cell}
      {items : List (Except FormatFault Cell)} {others : List (Except FormatFault Piece)},
      Fits cell piece → distinct Cell.part? .partTwice seen (.ok cell :: items) = .ok cells →
      (∀ {seen cells}, distinct Cell.part? .partTwice seen items = .ok cells →
        ∃ pieces, distinct Piece.slot? .slotTwice (slotsOf seen) others = .ok pieces ∧
          List.Forall₂ Fits cells pieces) →
      ∃ pieces, distinct Piece.slot? .slotTwice (slotsOf seen) (.ok piece :: others) = .ok pieces ∧
        List.Forall₂ Fits cells pieces := by
    intro cell piece seen cells items others fits read rest
    obtain ⟨fresh, tail, rfl, more⟩ := exists_of_distinct_cons read
    obtain ⟨pieces, found, all⟩ := rest more
    rw [fits.slotsOf_append] at found
    exact ⟨piece :: pieces, distinct_cons (fits.fresh fresh) found, .cons fits all⟩
  fun_induction scan readCell .literal state cs generalizing seen cells with
  | case1 =>
    cases read
    exact ⟨[], rfl, .nil⟩
  | case2 => cases read
  | case3 => cases read
  | case4 skip c rest ih => exact ih read
  | case5 rest ih => exact ih read
  | case6 => cases read
  | case7 c rest noQuote cell more reads ih =>
    rw [scan, if_neg noQuote]
    rcases readCell_eq_ok reads with ⟨part, leads, same, rfl⟩ | ⟨other, ascii, same, rfl⟩
    · cases same
      obtain ⟨-, tail, -, rest⟩ := exists_of_distinct_cons read
      rw [readPiece_of_leads leads (longest_of_read rest)]
      exact step (.digits part) read ih
    · cases same
      rw [readPiece_of_not_isAlphanum other]
      by_cases blank : Text.isBlank c = true
      · rw [if_pos blank]
        exact step (.blank (Chars.isSpace_of_isBlank blank ascii)) read ih
      · rw [if_neg blank]
        exact step (.literal c) read ih
  | case8 c rest noQuote more reads ih =>
    rcases readCell_eq_ok reads with ⟨_, -, same, -⟩ | ⟨-, -, same, -⟩ <;> cases same
  | case9 rest ih => exact ih read
  | case10 rest noQuote ih => exact ih read
  | case11 c rest noQuote noEscape ih =>
    rw [scan, if_neg noQuote, if_neg noEscape]
    exact step (.literal c) read ih
  | case12 c rest ih => exact step (.literal c) read ih

theorem isBlank_of_trim_eq_nil (empty : Text.trim cs = []) : ∀ c ∈ cs, Text.isBlank c = true := by
  have back : (Text.trimStart cs).reverse.dropWhile Text.isBlank = [] :=
    List.reverse_eq_nil_iff.1 empty
  have none : Text.trimStart cs = [] := by
    rw [Text.trimStart, ← List.dropWhile_idempotent]
    refine List.dropWhile_eq_nil_iff.2 fun c member => ?_
    exact List.dropWhile_eq_nil_iff.1 back c (List.mem_reverse.2 member)
  exact List.dropWhile_eq_nil_iff.1 none

theorem not_isAlphanum_of_isBlank (blank : Text.isBlank c = true) : c.isAlphanum = false := by
  simp only [Text.isBlank, Bool.or_eq_true, Bool.and_eq_true, decide_eq_true_eq,
    beq_iff_eq] at blank
  refine Bool.or_eq_false_iff.2 ⟨?_, ?_⟩
  · refine Bool.eq_false_iff.2 fun letter => ?_
    have bounds := (Sql.isAlpha_iff c).1 letter
    omega
  · refine Bool.eq_false_iff.2 fun digit => ?_
    have bounds : 48 ≤ c.toNat ∧ c.toNat ≤ 57 := by
      simpa [Char.isDigit, UInt32.le_iff_toNat_le] using digit
    omega

theorem placesFrom_of_isBlank (blank : ∀ c ∈ cs, Text.isBlank c = true)
    (read : distinct Cell.part? .partTwice seen (scan readCell .literal (.plain 0) cs) =
      .ok cells) (position : Nat) : placesFrom position cells = [] := by
  induction cs generalizing cells position with
  | nil =>
    cases read
    rfl
  | cons c rest ih =>
    have isBlank := blank c List.mem_cons_self
    have noQuote : c ≠ Text.doubleQuote := by
      intro quote
      rw [quote] at isBlank
      cases isBlank
    rw [scan, if_neg noQuote, readCell_of_not_isAlphanum (not_isAlphanum_of_isBlank isBlank)]
      at read
    split at read
    · next fault same =>
        cases read
    · next piece more same =>
        split at same
        · cases same
        · cases same
          obtain ⟨-, tail, rfl, more⟩ := exists_of_distinct_cons read
          exact ih (fun c member => blank c (List.mem_cons_of_mem _ member)) more (position + 1)
    · next same =>
        split at same <;> cases same

theorem capturesFrom_field (index : Nat) (part : DatePart) (pieces : List Piece) :
    capturesFrom index (.field (numberToken part) :: pieces) =
      ⟨part, index, false⟩ :: capturesFrom (index + 1) pieces := by
  cases part <;> rfl

theorem capturesFrom_of_fits (fits : List.Forall₂ Fits cells pieces) (index position : Nat) :
    (capturesFrom index pieces).map Capture.part = (placesFrom position cells).map Prod.fst ∧
      ∀ capture ∈ capturesFrom index pieces, capture.isName = false := by
  induction fits generalizing index position with
  | nil => exact ⟨rfl, nofun⟩
  | cons first rest ih =>
    cases first with
    | literal c => exact ih index (position + 1)
    | blank isBlank => exact ih index (position + 1)
    | digits part =>
      obtain ⟨parts, numbers⟩ := ih (index + 1) (position + part.width)
      rw [capturesFrom_field, placesFrom, List.map_cons, List.map_cons, parts]
      refine ⟨rfl, ?_⟩
      intro capture member
      rcases List.mem_cons.1 member with rfl | member
      · rfl
      · exact numbers capture member

theorem isZoned_of_fits (fits : List.Forall₂ Fits cells pieces) :
    (Template.mk pieces).isZoned = false := by
  induction fits with
  | nil => rfl
  | cons first rest ih =>
    cases first with
    | literal c => exact ih
    | blank isBlank => exact ih
    | digits part => cases part <;> exact ih

theorem cells_of_read (read : Layout.read format = .ok layout) :
    distinct Cell.part? .partTwice [] (scan readCell .literal (.plain 0) format.toList) =
      .ok layout.cells ∧ layout.isComplete = true := by
  unfold Layout.read at read
  cases cells : distinct Cell.part? .partTwice []
      (scan readCell .literal (.plain 0) format.toList) with
  | error fault =>
    rw [cells] at read
    cases read
  | ok found =>
    rw [cells] at read
    change (if (Layout.mk found).isComplete then _ else _) = _ at read
    split at read
    · next complete =>
        cases read
        exact ⟨rfl, complete⟩
    · cases read

theorem exists_template (read : Layout.read format = .ok layout) :
    ∃ template, Template.read format = .ok template ∧
      List.Forall₂ Fits layout.cells template.pieces := by
  obtain ⟨cells, complete⟩ := cells_of_read read
  have filled : (Text.trim format.toList).isEmpty = false := by
    refine Bool.eq_false_iff.2 fun empty => ?_
    have noPlaces := placesFrom_of_isBlank (isBlank_of_trim_eq_nil (List.isEmpty_iff.1 empty)) cells 1
    have noParts : ∀ part, layout.position? part = none := by
      intro part
      rw [Layout.position?, Layout.places, noPlaces]
      rfl
    rw [Layout.isComplete, List.all_cons, noParts] at complete
    cases complete
  obtain ⟨pieces, found, fits⟩ := exists_pieces cells
  refine ⟨⟨pieces⟩, ?_, fits⟩
  rw [Template.read, filled, if_neg Bool.false_ne_true]
  rw [show distinct Piece.slot? .slotTwice [] (scan readPiece .literal (.plain 0) format.toList) =
    .ok pieces from found]
  rfl

end Format

end SheetSql
