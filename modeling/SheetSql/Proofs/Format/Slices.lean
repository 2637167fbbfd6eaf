import SheetSql.Proofs.Format.Captures
import SheetSql.Proofs.Format.FixedWidth
import SheetSql.Proofs.Matching.Glob
import SheetSql.Proofs.Matching.Width

namespace SheetSql.Format

/-! Texts of a fixed width. -/

open Regex Matcher

def slice (cs : List Char) (place : DatePart × Nat) : List Char :=
  (cs.drop (place.2 - 1)).take place.1.width

def bounds? : DatePart → Option (Nat × Nat)
  | .month => some (1, 12)
  | .day => some (1, 31)
  | .hour => some (0, 23)
  | .minute => some (0, 59)
  | .second => some (0, 59)
  | .year => none
  | .millisecond => none

def IsBounded (part : DatePart) (cs : List Char) : Prop :=
  ∀ bounds ∈ bounds? part, bounds.1 ≤ Decimal.natOf cs ∧ Decimal.natOf cs ≤ bounds.2

def Layout.IsBounded (layout : Layout) (cs : List Char) : Prop :=
  ∀ place ∈ layout.places, Format.IsBounded place.1 (slice cs place)

def Cell.Accepts : Cell → List Char → Prop
  | .literal c, cs => cs = [c]
  | .digits part, cs => cs.length = part.width ∧ Decimal.isDigits cs = true

theorem Cell.Accepts.length {cell : Cell} {cs : List Char} (accepts : cell.Accepts cs) :
    cs.length = cell.width := by
  cases cell with
  | literal c =>
    rw [show cs = [c] from accepts]
    rfl
  | digits part => exact accepts.1

theorem has_digits (c : Char) : CharSet.digits.has c = c.isDigit := by
  simp [CharSet.has, CharSet.digits, CharSet.of, CharRange.has, Char.isDigit, Char.le_def]

theorem exists_of_accepts_digits
    (accepted : Glob.accepts (List.replicate n .digit ++ rest) cs = true) :
    ∃ head tail, cs = head ++ tail ∧ head.length = n ∧ Decimal.isDigits head = true ∧
      Glob.accepts rest tail = true := by
  induction n generalizing cs with
  | zero => exact ⟨[], cs, rfl, rfl, rfl, accepted⟩
  | succ n ih =>
    cases cs with
    | nil => cases accepted
    | cons c cs =>
      obtain ⟨isDigit, accepted⟩ := Bool.and_eq_true_iff.1 accepted
      rw [has_digits] at isDigit
      obtain ⟨head, tail, rfl, length, digits, accepted⟩ := ih accepted
      refine ⟨c :: head, tail, rfl, congrArg _ length, ?_, accepted⟩
      rw [Decimal.isDigits, List.all_cons, isDigit]
      exact digits

theorem exists_of_accepts_cell {cell : Cell} {rest : Glob} {cs : List Char}
    (accepted : Glob.accepts (cell.glob ++ rest) cs = true) :
    ∃ head tail, cs = head ++ tail ∧ cell.Accepts head ∧ Glob.accepts rest tail = true := by
  cases cell with
  | literal c =>
    cases cs with
    | nil => cases accepted
    | cons x cs =>
      obtain ⟨same, accepted⟩ := Bool.and_eq_true_iff.1 accepted
      exact ⟨[x], cs, rfl, congrArg (fun c => [c]) (eq_of_beq same), accepted⟩
  | digits part =>
    obtain ⟨head, tail, split, length, digits, accepted⟩ := exists_of_accepts_digits accepted
    exact ⟨head, tail, split, ⟨length, digits⟩, accepted⟩

theorem length_of_accepts {cells : List Cell}
    (accepted : Glob.accepts (cells.flatMap Cell.glob) cs = true) :
    cs.length = (cells.map Cell.width).sum := by
  induction cells generalizing cs with
  | nil =>
    rw [List.isEmpty_iff.1 accepted]
    rfl
  | cons cell cells ih =>
    rw [List.flatMap_cons] at accepted
    obtain ⟨head, tail, rfl, accepts, accepted⟩ := exists_of_accepts_cell accepted
    rw [List.length_append, accepts.length, ih accepted, List.map_cons, List.sum_cons]

section

variable {blank : Char → Bool} {first second : Regex} {c d : Char}

def ReadsOne (blank : Char → Bool) (r : Regex) (c : Char) : Prop :=
  ∀ index before after, r.reads blank index before [c] after []

theorem readsOne_digit (isDigit : c.isDigit = true) : ReadsOne blank .digit c :=
  fun _ _ _ => ⟨c, isDigit, rfl, rfl⟩

theorem readsOne_char (x : Char) (same : c.toNat = x.toNat) : ReadsOne blank (.char x) c :=
  fun _ _ _ => ⟨c, beq_iff_eq.2 (Char.toNat_inj.1 same), rfl, rfl⟩

theorem readsOne_span (low high : Char) (above : low.toNat ≤ c.toNat)
    (below : c.toNat ≤ high.toNat) : ReadsOne blank (span low high) c := by
  intro index before after
  refine ⟨c, ?_, rfl, rfl⟩
  simpa [CharSet.has, CharSet.of, CharRange.has, Char.le_def, UInt32.le_iff_toNat_le] using
    And.intro above below

theorem readsOne_oneOf (members : String) (member : c ∈ members.toList) :
    ReadsOne blank (oneOf members) c := by
  intro index before after
  refine ⟨c, ?_, rfl, rfl⟩
  simpa [CharSet.has, CharSet.ofText, CharSet.of, CharRange.has, List.any_eq_true] using member

variable (readsFirst : ReadsOne blank first c) (readsSecond : ReadsOne blank second d)

include readsFirst readsSecond

theorem reads_two (index : Nat) (before after : List Char) :
    (first ++ second).reads blank index before [c, d] after [] :=
  ⟨[c], [d], [], [], rfl, rfl, readsFirst _ _ _, readsSecond _ _ _⟩

theorem reads_opt_two (index : Nat) (before after : List Char) :
    (first.opt ++ second).reads blank index before [c, d] after [] :=
  ⟨[c], [d], [], [], rfl, rfl, times_opt.2 (.inr (readsFirst _ _ _)), readsSecond _ _ _⟩

end

theorem mem_pair {c x y : Char} (either : c.toNat = x.toNat ∨ c.toNat = y.toNat) : c ∈ [x, y] := by
  rw [Char.toNat_inj, Char.toNat_inj] at either
  simpa using either

theorem exists_digits {cs : List Char} (length : cs.length = 2)
    (digits : Decimal.isDigits cs = true) :
    ∃ c d : Char, cs = [c, d] ∧ IsDigitIn 0 9 c ∧ IsDigitIn 0 9 d ∧
      Decimal.natOf cs = 10 * (c.toNat - 48) + (d.toNat - 48) := by
  obtain ⟨c, d, rfl⟩ := List.length_eq_two.1 length
  have both : c.isDigit = true ∧ d.isDigit = true := by
    simpa [Decimal.isDigits] using digits
  refine ⟨c, d, rfl, ?_, ?_, by simp [Decimal.natOf]⟩
  · simpa [IsDigitIn, Char.isDigit, UInt32.le_iff_toNat_le] using both.1
  · simpa [IsDigitIn, Char.isDigit, UInt32.le_iff_toNat_le] using both.2

section

variable {blank : Char → Bool} {c d : Char} (tens : IsDigitIn 0 9 c) (ones : IsDigitIn 0 9 d)
  {index : Nat} {before after : List Char}

include tens ones

theorem reads_twelve (least : 1 ≤ 10 * (c.toNat - 48) + (d.toNat - 48))
    (most : 10 * (c.toNat - 48) + (d.toNat - 48) ≤ 12) :
    twelve.reads blank index before [c, d] after [] := by
  obtain ⟨tensLow, tensHigh⟩ := tens
  obtain ⟨onesLow, onesHigh⟩ := ones
  by_cases zero : c.toNat = 48
  · have low : 49 ≤ d.toNat := by omega
    exact .inl (reads_opt_two (readsOne_char '0' zero) (readsOne_span '1' '9' low onesHigh) _ _ _)
  · have one : c.toNat = 49 := by omega
    have high : d.toNat ≤ 50 := by omega
    exact .inr (reads_two (readsOne_char '1' one) (readsOne_span '0' '2' onesLow high) _ _ _)

theorem reads_dayOfMonth (least : 1 ≤ 10 * (c.toNat - 48) + (d.toNat - 48))
    (most : 10 * (c.toNat - 48) + (d.toNat - 48) ≤ 31) :
    dayOfMonth.reads blank index before [c, d] after [] := by
  have isDigit := isDigit_of_isDigitIn (by decide) ones
  obtain ⟨tensLow, tensHigh⟩ := tens
  obtain ⟨onesLow, onesHigh⟩ := ones
  by_cases zero : c.toNat = 48
  · have low : 49 ≤ d.toNat := by omega
    exact .inl (reads_opt_two (readsOne_char '0' zero) (readsOne_span '1' '9' low onesHigh) _ _ _)
  by_cases three : c.toNat = 51
  · have either : d.toNat = '0'.toNat ∨ d.toNat = '1'.toNat := by
      change d.toNat = 48 ∨ d.toNat = 49
      omega
    have member : d ∈ "01".toList := mem_pair either
    exact .inr (.inr (reads_two (readsOne_char '3' three) (readsOne_oneOf "01" member) _ _ _))
  · have either : c.toNat = '1'.toNat ∨ c.toNat = '2'.toNat := by
      change c.toNat = 49 ∨ c.toNat = 50
      omega
    have member : c ∈ "12".toList := mem_pair either
    exact .inr (.inl (reads_two (readsOne_oneOf "12" member) (readsOne_digit isDigit) _ _ _))

theorem reads_hourOfDay (most : 10 * (c.toNat - 48) + (d.toNat - 48) ≤ 23) :
    hourOfDay.reads blank index before [c, d] after [] := by
  have isDigit := isDigit_of_isDigitIn (by decide) ones
  obtain ⟨tensLow, tensHigh⟩ := tens
  obtain ⟨onesLow, onesHigh⟩ := ones
  by_cases two : c.toNat = 50
  · have high : d.toNat ≤ 51 := by omega
    exact .inr (reads_two (readsOne_char '2' two) (readsOne_span '0' '3' onesLow high) _ _ _)
  · have either : c.toNat = '0'.toNat ∨ c.toNat = '1'.toNat := by
      change c.toNat = 48 ∨ c.toNat = 49
      omega
    have member : c ∈ "01".toList := mem_pair either
    exact .inl (reads_opt_two (readsOne_oneOf "01" member) (readsOne_digit isDigit) _ _ _)

theorem reads_sixty (most : 10 * (c.toNat - 48) + (d.toNat - 48) ≤ 59) :
    sixty.reads blank index before [c, d] after [] := by
  have isDigit := isDigit_of_isDigitIn (by decide) ones
  obtain ⟨tensLow, tensHigh⟩ := tens
  obtain ⟨onesLow, onesHigh⟩ := ones
  have high : c.toNat ≤ 53 := by omega
  exact reads_opt_two (readsOne_span '0' '5' tensLow high) (readsOne_digit isDigit) _ _ _

end

theorem reads_numberToken {blank : Char → Bool} (part : DatePart) {cs : List Char}
    (length : cs.length = part.width) (digits : Decimal.isDigits cs = true)
    (bounded : IsBounded part cs) (index : Nat) (before after : List Char) :
    (numberToken part).pattern.reads blank index before cs after [] := by
  cases part with
  | year =>
    refine times_one.2 ⟨length.ge, ?_, List.all_eq_true.1 digits, rfl⟩
    intro bound same
    cases same
    exact length.le
  | millisecond =>
    have least : 1 ≤ cs.length := by
      rw [length]
      decide
    refine times_one.2 ⟨least, ?_, List.all_eq_true.1 digits, rfl⟩
    intro bound same
    cases same
    exact length.le
  | month =>
    obtain ⟨least, most⟩ := bounded _ rfl
    obtain ⟨c, d, rfl, tens, ones, value⟩ := exists_digits length digits
    rw [value] at least most
    exact reads_twelve tens ones least most
  | day =>
    obtain ⟨least, most⟩ := bounded _ rfl
    obtain ⟨c, d, rfl, tens, ones, value⟩ := exists_digits length digits
    rw [value] at least most
    exact reads_dayOfMonth tens ones least most
  | hour =>
    obtain ⟨-, most⟩ := bounded _ rfl
    obtain ⟨c, d, rfl, tens, ones, value⟩ := exists_digits length digits
    rw [value] at most
    exact reads_hourOfDay tens ones most
  | minute | second =>
    obtain ⟨-, most⟩ := bounded _ rfl
    obtain ⟨c, d, rfl, tens, ones, value⟩ := exists_digits length digits
    rw [value] at most
    exact reads_sixty tens ones most

def Cell.captured : Cell → Nat → List Char → Captures
  | .literal _, _, _ => []
  | .digits _, index, cs => [(index, cs)]

def capturedFrom (cs : List Char) : Nat → List (DatePart × Nat) → Captures
  | _, [] => []
  | index, place :: rest => (index, slice cs place) :: capturedFrom cs (index + 1) rest

theorem placesFrom_digits (n : Nat) (part : DatePart) (cells : List Cell) :
    placesFrom (n + 1) (.digits part :: cells) =
      (part, n + 1) :: placesFrom (n + part.width + 1) cells := by
  rw [placesFrom, Nat.add_right_comm]

theorem capturedFrom_cons (cs : List Char) (index n : Nat) (cell : Cell) (cells : List Cell) :
    capturedFrom cs index (placesFrom (n + 1) (cell :: cells)) =
      cell.captured index ((cs.drop n).take cell.width) ++
        capturedFrom cs (index + cell.part?.toList.length) (placesFrom (n + cell.width + 1) cells) := by
  cases cell with
  | literal c => rfl
  | digits part =>
    rw [placesFrom_digits]
    rfl

theorem regex_numberToken (part : DatePart) :
    (Piece.field (numberToken part)).regex = .group true (numberToken part).pattern := by
  cases part <;> rfl

section

variable {cell : Cell} {piece : Piece} (fits : Fits cell piece) {index : Nat}
  {before found after : List Char}

include fits

theorem Fits.groups : piece.regex.groups = cell.part?.toList.length := by
  cases fits with
  | literal c => rfl
  | blank isBlank => rfl
  | digits part => cases part <;> rfl

theorem Fits.width? : piece.regex.width? = some cell.width := by
  cases fits with
  | literal c => rfl
  | blank isBlank => rfl
  | digits part => cases part <;> rfl

theorem Fits.captures_of_reads {blank : Char → Bool} {captures : Captures}
    (read : piece.regex.reads blank index before found after captures) :
    captures = cell.captured index found := by
  cases fits with
  | literal c => exact captures_of_groups rfl read
  | blank isBlank => exact captures_of_groups rfl read
  | digits part =>
    have plain : (numberToken part).pattern.groups = 0 := by
      cases part <;> rfl
    rw [regex_numberToken] at read
    obtain ⟨more, rfl, read⟩ := read
    rw [captures_of_groups plain read]
    rfl

theorem Fits.reads_of_accepts (accepts : cell.Accepts found)
    (bounded : ∀ part, cell.part? = some part → IsBounded part found) :
    piece.regex.reads Chars.isSpace index before found after (cell.captured index found) := by
  cases fits with
  | literal c =>
    rw [show found = [c] from accepts]
    exact ⟨c, beq_self_eq_true c, rfl, rfl⟩
  | @blank c isBlank =>
    rw [show found = [c] from accepts]
    exact ⟨c, isBlank, rfl, rfl⟩
  | digits part =>
    rw [regex_numberToken]
    exact ⟨[], rfl, reads_numberToken part accepts.1 accepts.2 (bounded part rfl) _ _ _⟩

end

def piecesRegex (pieces : List Piece) : Regex :=
  pieces.foldr (fun piece rest => .seq piece.regex rest) .finish

section

variable {cells : List Cell} {pieces : List Piece} (fits : List.Forall₂ Fits cells pieces)
  {cs : List Char}

include fits

theorem width?_piecesRegex : (piecesRegex pieces).width? = some (cells.map Cell.width).sum := by
  induction fits with
  | nil => rfl
  | cons first rest ih =>
    change Option.bind _ _ = _
    rw [first.width?]
    change Option.map _ (piecesRegex _).width? = _
    rw [ih]
    rfl

theorem reads_piecesRegex (accepted : Glob.accepts (cells.flatMap Cell.glob) (cs.drop n) = true)
    (bounded : ∀ place ∈ placesFrom (n + 1) cells, IsBounded place.1 (slice cs place)) (index : Nat)
    (before : List Char) :
    (piecesRegex pieces).reads Chars.isSpace index before (cs.drop n) []
      (capturedFrom cs index (placesFrom (n + 1) cells)) := by
  induction fits generalizing n index before with
  | nil => exact ⟨rfl, List.isEmpty_iff.1 accepted, rfl⟩
  | @cons cell piece cells pieces first rest ih =>
    rw [List.flatMap_cons] at accepted
    obtain ⟨head, tail, split, accepts, accepted⟩ := exists_of_accepts_cell accepted
    have start : (cs.drop n).take cell.width = head := by
      rw [split, List.take_left' accepts.length]
    have finish : cs.drop (n + cell.width) = tail := by
      rw [← List.drop_drop, split, List.drop_left' accepts.length]
    rw [← finish] at accepted split
    have inRange : ∀ part, cell.part? = some part → IsBounded part head := by
      intro part isPart
      cases cell with
      | literal c => cases isPart
      | digits other =>
        cases isPart
        rw [← start]
        exact bounded (part, n + 1) List.mem_cons_self
    have others : ∀ place ∈ placesFrom (n + cell.width + 1) cells,
        IsBounded place.1 (slice cs place) := by
      intro place member
      apply bounded
      cases cell with
      | literal c => exact member
      | digits part =>
        rw [placesFrom_digits]
        exact List.mem_cons_of_mem _ member
    rw [capturedFrom_cons, start]
    refine ⟨head, cs.drop (n + cell.width), _, _, split, rfl,
      first.reads_of_accepts accepts inRange, ?_⟩
    rw [first.groups]
    exact ih accepted others _ _

theorem captures_of_reads {n : Nat} (length : cs.length = n + (cells.map Cell.width).sum)
    {blank : Char → Bool} {index : Nat} {before : List Char} {captures : Captures}
    (read : (piecesRegex pieces).reads blank index before (cs.drop n) [] captures) :
    captures = capturedFrom cs index (placesFrom (n + 1) cells) := by
  induction fits generalizing n index before captures with
  | nil => exact read.2.2
  | @cons cell piece cells pieces first rest ih =>
    obtain ⟨head, tail, headCaptures, tailCaptures, split, rfl, readHead, readTail⟩ := read
    have headLe := length_le_of_reads piece.regex first.width? readHead
    have tailLe := length_le_of_reads _ (width?_piecesRegex rest) readTail
    have total : cs.length - n = head.length + tail.length := by
      rw [← List.length_drop, split, List.length_append]
    rw [List.map_cons, List.sum_cons] at length
    have full : head.length = cell.width := by omega
    have start : (cs.drop n).take cell.width = head := by
      rw [split, List.take_left' full]
    have finish : cs.drop (n + cell.width) = tail := by
      rw [← List.drop_drop, split, List.drop_left' full]
    rw [← finish, first.groups] at readTail
    rw [capturedFrom_cons, start, first.captures_of_reads readHead,
      ih (by omega) readTail]

theorem after_of_reads {blank : Char → Bool} {index : Nat} {before found after : List Char}
    {captures : Captures}
    (read : (piecesRegex pieces).reads blank index before found after captures) : after = [] := by
  induction fits generalizing index before found captures with
  | nil => exact read.1
  | cons first rest ih =>
    obtain ⟨_, _, _, _, -, -, -, readTail⟩ := read
    exact ih readTail

end

section

variable {layout : Layout} {template : Template}
  (fits : List.Forall₂ Fits layout.cells template.pieces) {cs : List Char}

include fits

theorem Layout.matches_iff (accepted : layout.glob.accepts cs = true)
    (bounded : layout.IsBounded cs) (captures : Captures) :
    template.regex.Matches Chars.isSpace cs captures ↔
      captures = capturedFrom cs 1 layout.places := by
  constructor
  · intro matched
    obtain ⟨before, found, after, rfl, reads⟩ := matched
    obtain ⟨_, tail, _, tailCaptures, rfl, rfl, ⟨rfl, rfl, rfl⟩, reads⟩ := reads
    cases after_of_reads fits reads
    have length := length_of_accepts accepted
    simp only [List.nil_append, List.append_nil] at length reads ⊢
    refine captures_of_reads fits ?_ reads
    rw [length, Nat.zero_add]
  · intro same
    have whole : Glob.accepts (layout.cells.flatMap Cell.glob) (cs.drop 0) = true := accepted
    rw [same]
    exact ⟨[], cs, [], by simp, [], cs, [], _, rfl, rfl, ⟨rfl, rfl, rfl⟩,
      reads_piecesRegex fits whole bounded 1 []⟩

end

theorem at?_capturedFrom (cs : List Char) {index first : Nat} (before : index < first)
    (places : List (DatePart × Nat)) : (capturedFrom cs first places).at? index = none := by
  induction places generalizing first with
  | nil => rfl
  | cons place places ih =>
    rw [capturedFrom, Captures.at?, ih (Nat.lt_succ_of_lt before), if_neg (Nat.ne_of_gt before)]
    rfl

theorem forall₂_captures (fits : List.Forall₂ Fits cells pieces) (cs : List Char)
    (index position : Nat) :
    List.Forall₂ (fun capture place => capture.part = place.1 ∧
        (capturedFrom cs index (placesFrom position cells)).at? capture.index =
          some (slice cs place))
      (capturesFrom index pieces) (placesFrom position cells) := by
  induction fits generalizing index position with
  | nil => exact .nil
  | cons first rest ih =>
    cases first with
    | literal c => exact ih index (position + 1)
    | blank isBlank => exact ih index (position + 1)
    | digits part =>
      rw [capturesFrom_field]
      refine .cons ⟨rfl, ?_⟩ ((ih (index + 1) (position + part.width)).imp ?_)
      · rw [placesFrom, capturedFrom, Captures.at?, at?_capturedFrom cs index.lt_succ_self,
          if_pos rfl]
        rfl
      · intro capture place both
        refine ⟨both.1, ?_⟩
        rw [placesFrom, capturedFrom, Captures.at?, both.2]
        rfl

end SheetSql.Format
