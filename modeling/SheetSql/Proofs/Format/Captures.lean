import SheetSql.Proofs.Format.Ranges
import SheetSql.Proofs.Matching.Reader

namespace SheetSql.Format

/-! What the groups of a parse format capture. -/

open Regex Matcher

theorem mem_scan {α : Type} {read : List Char → Except FormatFault (Option α × Nat)}
    {literal : Char → α} {state : ScanState} {cs : List Char} {piece : α}
    (member : .ok piece ∈ scan read literal state cs) :
    (∃ c, piece = literal c) ∨ ∃ rest more, read rest = .ok (some piece, more) := by
  fun_induction scan read literal state cs with
  | case1 => cases member
  | case2 => cases List.mem_singleton.1 member
  | case3 => cases List.mem_singleton.1 member
  | case4 _ _ _ ih => exact ih member
  | case5 _ ih => exact ih member
  | case6 => cases List.mem_singleton.1 member
  | case7 c rest _ found more reads ih =>
    rcases List.mem_cons.1 member with same | member
    · cases same
      exact .inr ⟨_, more, reads⟩
    · exact ih member
  | case8 _ _ _ _ _ ih => exact ih member
  | case9 _ ih => exact ih member
  | case10 _ _ ih => exact ih member
  | case11 c _ _ _ ih =>
    rcases List.mem_cons.1 member with same | member
    · cases same
      exact .inl ⟨c, rfl⟩
    · exact ih member
  | case12 c _ ih =>
    rcases List.mem_cons.1 member with same | member
    · cases same
      exact .inl ⟨c, rfl⟩
    · exact ih member

theorem mem_distinct {α κ : Type} [DecidableEq κ] {key : α → Option κ} {twice : κ → FormatFault}
    {seen : List κ} {items : List (Except FormatFault α)} {pieces : List α}
    (read : distinct key twice seen items = .ok pieces) {piece : α} (member : piece ∈ pieces) :
    .ok piece ∈ items := by
  induction items generalizing seen pieces with
  | nil =>
    cases read
    cases member
  | cons item items ih =>
    cases item with
    | error fault => cases read
    | ok first =>
      have later : ∀ seen', (distinct key twice seen' items).map (first :: ·) = .ok pieces →
          .ok piece ∈ Except.ok first :: items := by
        intro seen' mapped
        cases rest : distinct key twice seen' items with
        | error fault =>
          rw [rest] at mapped
          cases mapped
        | ok tail =>
          rw [rest] at mapped
          cases mapped
          rcases List.mem_cons.1 member with rfl | member
          · exact List.mem_cons_self
          · exact List.mem_cons_of_mem _ (ih rest member)
      rw [distinct] at read
      split at read
      · exact later _ read
      · split at read
        · cases read
        · exact later _ read

theorem mem_tokens_of_readPiece (read : readPiece cs = .ok (some (.field token), more)) :
    token ∈ tokens := by
  cases cs with
  | nil => cases read
  | cons c rest =>
    rw [readPiece] at read
    dsimp only at read
    split at read
    · cases read
    · split at read
      · cases read
      · split at read
        · next found =>
            cases read
            exact List.mem_of_find?_eq_some found
        · split at read <;> cases read

theorem mem_tokens_of_read {template : Template} (read : Template.read format = .ok template)
    (member : .field token ∈ template.pieces) : token ∈ tokens := by
  unfold Template.read at read
  split at read
  · cases read
  · cases pieces : distinct Piece.slot? .slotTwice []
        (scan readPiece .literal (.plain 0) format.toList) with
    | error fault =>
      rw [pieces] at read
      cases read
    | ok found =>
      rw [pieces] at read
      cases read
      rcases mem_scan (mem_distinct pieces member) with ⟨c, literal⟩ | ⟨_, _, reads⟩
      · cases literal
      · exact mem_tokens_of_readPiece reads

theorem fits_and_groups_of_mem (known : token ∈ tokens) :
    token.pattern.fits .whole = true ∧ token.pattern.groups = 0 := by
  have table : (tokens.all fun token =>
      token.pattern.fits .whole && token.pattern.groups == 0) = true := by decide +kernel
  have row := List.all_eq_true.1 table token known
  rw [Bool.and_eq_true, beq_iff_eq] at row
  exact row

theorem groups_field (known : token ∈ tokens) :
    (Piece.field token).regex.groups = if token.part.isSome then 1 else 0 := by
  rw [Piece.regex]
  cases token.isPadded with
  | false => exact congrArg _ (fits_and_groups_of_mem known).2
  | true => exact congrArg _ (fits_and_groups_of_mem known).2

theorem reads_field {blank : Char → Bool} {token : Token} {part : DatePart} (known : token ∈ tokens)
    (dated : token.part = some part)
    (read : (Piece.field token).regex.reads blank index before found after captures) :
    ∃ text, captures = [(index, text)] ∧ Holds ⟨part, index, token.isName⟩ text := by
  have value : ∀ {before found after captures},
      (Regex.group true token.pattern).reads blank index before found after captures →
      ∃ text, captures = [(index, text)] ∧ Holds ⟨part, index, token.isName⟩ text := by
    rintro _ found _ _ ⟨more, rfl, read⟩
    rw [captures_of_groups (fits_and_groups_of_mem known).2 read]
    exact ⟨found, rfl, holds_of_reads known dated read index⟩
  rw [Piece.regex, dated] at read
  cases padded : token.isPadded with
  | false =>
    rw [padded] at read
    exact value read
  | true =>
    rw [padded] at read
    obtain ⟨_, _, _, _, rfl, rfl, first, blanks⟩ := read
    obtain ⟨text, rfl, holds⟩ := value first
    obtain ⟨-, -, -, rfl⟩ := times_one.1 blanks
    exact ⟨text, rfl, holds⟩

theorem holds_of_reads_pieces {blank : Char → Bool}
    (known : ∀ token, .field token ∈ pieces → token ∈ tokens) {captures : Captures}
    (read : (pieces.foldr (fun piece rest => Regex.seq piece.regex rest) .finish).reads blank index before found after captures)
    :
    ∀ capture ∈ capturesFrom index pieces, ∃ text,
      captures.at? capture.index = some text ∧ Holds capture text := by
  induction pieces generalizing index before found captures with
  | nil =>
    intro capture member
    cases member
  | cons piece pieces ih =>
    rw [List.foldr_cons] at read
    obtain ⟨_, _, first, rest, rfl, rfl, readFirst, readRest⟩ := read
    have later := ih (fun token member => known token (List.mem_cons_of_mem _ member)) readRest
    have plain : piece.regex.groups = 0 → ∀ capture ∈ capturesFrom index pieces, ∃ text,
        (first ++ rest).at? capture.index = some text ∧ Holds capture text := by
      intro none
      rw [captures_of_groups none readFirst]
      rw [none] at later
      exact later
    cases piece with
    | literal c => exact plain rfl
    | blank => exact plain rfl
    | field token =>
      have isToken := known token List.mem_cons_self
      have count := groups_field isToken
      cases dated : token.part with
      | none =>
        rw [dated] at count
        rw [capturesFrom, dated]
        exact plain count
      | some part =>
        rw [dated] at count
        obtain ⟨text, rfl, holds⟩ := reads_field isToken dated readFirst
        rw [count] at later readRest
        -- The groups after this piece have greater numbers and do not overwrite it.
        have apart : rest.at? index = none := by
          apply Captures.at?_eq_none
          intro entry member same
          have bounds := index_of_reads blank _ readRest entry member
          simp only [Option.isSome_some, if_true] at bounds
          omega
        rw [capturesFrom, dated]
        intro capture member
        rcases List.mem_cons.1 member with rfl | member
        · refine ⟨text, ?_, holds⟩
          change (rest.at? index).or (if index = index then some text else none) = _
          rw [apart, if_pos rfl]
          rfl
        · obtain ⟨text', found, holds'⟩ := later capture member
          refine ⟨text', ?_, holds'⟩
          change (rest.at? capture.index).or _ = _
          rw [found]
          rfl

theorem fits_template {template : Template}
    (known : ∀ token, .field token ∈ template.pieces → token ∈ tokens) :
    template.regex.fits .whole = true := by
  have pieces : ∀ pieces : List Piece, (∀ token, .field token ∈ pieces → token ∈ tokens) →
      (pieces.foldr (fun piece rest => Regex.seq piece.regex rest) .finish).fits .branch =
        true := by
    intro pieces
    induction pieces with
    | nil =>
      intro _
      rfl
    | cons piece pieces ih =>
      intro known
      have rest := ih fun token member => known token (List.mem_cons_of_mem _ member)
      have first : piece.regex.fits .branch = true := by
        cases piece with
        | literal c => rfl
        | blank => rfl
        | field token =>
          have fits := (fits_and_groups_of_mem (known token List.mem_cons_self)).1
          rw [Piece.regex]
          cases token.isPadded with
          | false => exact fits
          | true => exact Bool.and_eq_true_iff.2 ⟨fits, rfl⟩
      exact Bool.and_eq_true_iff.2 ⟨first, rest⟩
  exact pieces template.pieces known

/--
The expression of a parse format captures each part of the date, in every text that it matches,
as a number in the range of the part or as the name of a month, which is evaluated to its number.
-/
theorem captured_in_range {format : String} {template : Template}
    (read : Template.read format = .ok template) (blank : Char → Bool) :
    ∃ regex, Regex.ofText? template.regex.text = some regex ∧
      ∀ text captures, regex.Matches blank text captures →
        ∀ part capture, template.capture? part = some capture →
          ∃ found, captures.at? capture.index = some found ∧
            (capture.isName = false → InRange part found) ∧
            (capture.isName = true → part = .month ∧ ∃ number, IsMonthName number found ∧
              ∀ (row : Row) (e : Expr), row.dialect = .postgres →
                e.eval row = some (.text found) →
                (Call.monthOfName e).eval row = some (.int number)) := by
  have known : ∀ token, .field token ∈ template.pieces → token ∈ tokens := fun token =>
    mem_tokens_of_read read
  obtain ⟨regex, spelled, same⟩ := ofText?_text blank (fits_template known)
  refine ⟨regex, spelled, ?_⟩
  intro text captures accepted part capture isCapture
  obtain ⟨before, found, after, rfl, reads⟩ := same.matches_iff.1 accepted
  obtain ⟨_, _, _, _, rfl, rfl, ⟨-, -, rfl⟩, reads⟩ := reads
  have member : capture ∈ capturesFrom 1 template.pieces := List.mem_of_find?_eq_some isCapture
  have isPart : capture.part = part := by
    have := List.find?_some isCapture
    exact eq_of_beq this
  obtain ⟨found, captured, holds⟩ := holds_of_reads_pieces known reads capture member
  rw [← isPart]
  refine ⟨found, captured, holds.number, ?_⟩
  intro isName
  obtain ⟨isMonth, number, month⟩ := holds.name isName
  exact ⟨isMonth, number, month, fun row e postgres value => eval_month postgres month value⟩

def dayAndMonth : Template :=
  ⟨[.field (.number "DD" dayOfMonth (some .day) (some .day)), .literal '.',
    .field (.name "MON" monthAbbreviations .month (some .month) false)]⟩

def lastOfMay : Captures := [(1, ['3', '1']), (2, ['m', 'A', 'y'])]

theorem matches_lastOfMay : dayAndMonth.regex.Matches Chars.isSpace "31.mAy".toList lastOfMay := by
  refine ⟨[], "31.mAy".toList, [], rfl, [], "31.mAy".toList, [], lastOfMay, rfl, rfl,
    ⟨rfl, rfl, rfl⟩, ['3', '1'], ".mAy".toList, [(1, ['3', '1'])], [(2, ['m', 'A', 'y'])], rfl, rfl,
    ?_, ['.'], "mAy".toList, [], [(2, ['m', 'A', 'y'])], rfl, rfl, ⟨'.', rfl, rfl, rfl⟩,
    "mAy".toList, [], [(2, ['m', 'A', 'y'])], [], rfl, rfl, ?_, rfl, rfl, rfl⟩
  · exact ⟨[], rfl, .inr (.inr ⟨['3'], ['1'], [], [], rfl, rfl, ⟨'3', rfl, rfl, rfl⟩,
      ⟨'1', rfl, rfl, rfl⟩⟩)⟩
  · exact ⟨[], rfl, .inr (.inr (.inr (.inr (.inl ⟨['m'], ['A', 'y'], [], [], rfl, rfl,
      ⟨'m', rfl, rfl, rfl⟩, ['A'], ['y'], [], [], rfl, rfl, ⟨'A', rfl, rfl, rfl⟩,
      ⟨'y', rfl, rfl, rfl⟩⟩))))⟩

theorem captured_in_range_lastOfMay :
    Template.read "DD.Mon" = .ok dayAndMonth ∧
      dayAndMonth.capture? .month = some ⟨.month, 2, true⟩ ∧
      ∃ regex, Regex.ofText? dayAndMonth.regex.text = some regex ∧
        regex.Matches Chars.isSpace "31.mAy".toList lastOfMay ∧
        ∃ found, lastOfMay.at? 2 = some found ∧ ∃ number, IsMonthName number found := by
  have read : Template.read "DD.Mon" = .ok dayAndMonth := by rfl
  have month : dayAndMonth.capture? .month = some ⟨.month, 2, true⟩ := by rfl
  obtain ⟨regex, spelled, holds⟩ := captured_in_range read Chars.isSpace
  obtain ⟨regex', spelled', same⟩ :=
    ofText?_text Chars.isSpace (r := dayAndMonth.regex) (by rfl)
  cases spelled.symm.trans spelled'
  have accepted := same.matches_iff.2 matches_lastOfMay
  obtain ⟨found, captured, -, named⟩ := holds _ _ accepted .month _ month
  obtain ⟨-, number, isMonth, -⟩ := named rfl
  exact ⟨read, month, regex, spelled, accepted, found, captured, number, isMonth⟩

end SheetSql.Format
