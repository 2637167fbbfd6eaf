import Mathlib.Data.List.Chain
import SheetSql.Format.Display
import SheetSql.Proofs.Format.Words

namespace SheetSql.Format

/-!
How Postgres splits a template into words and literal characters, and when it finds the words that
the template was put together from.
-/

open Text

inductive Mark where
  | literal (c : Char)
  /-- The next word is written without padding. -/
  | fill
  | word (spelling : List Char)
  deriving DecidableEq, Repr

/-- The mark at the start of a template outside quotes. The longer words are tried first. -/
def readMark : List Char → Except FormatFault (Option Mark × Nat)
  | [] => .ok (none, 0)
  | c :: rest =>
    if leads "FM".toList (c :: rest) then .ok (some .fill, 1)
    else
      match tokens.find? fun token => leads token.word.toList (c :: rest) with
      | some token =>
        .ok (some (.word ((c :: rest).take token.word.length)), token.word.length - 1)
      | none => .ok (some (.literal c), 0)

def readMarks (template : String) : List (Except FormatFault Mark) :=
  scan readMark .literal (.plain 0) template.toList

namespace DisplayPart

def keyword (part : DisplayPart) : List Char :=
  if startsWith "FM".toList part.template.toList then part.template.toList.drop 2
  else part.template.toList

def marks (part : DisplayPart) : List Mark :=
  if startsWith "FM".toList part.template.toList then [.fill, .word part.keyword]
  else [.word part.keyword]

def next? : DisplayPart → Option Char
  | .year2 => some 'Y'
  | .monthAbbr => some 'T'
  | .day2 | .day => some 'D'
  | .second2 | .second => some 'S'
  | _ => none

/-- The words of two parts side by side start with a longer word than the first. -/
def fuses : DisplayPart → DisplayPart → Bool
  | .year2, .year2 | .year2, .year4 => true
  | .day2, .day2 | .day2, .weekdayAbbr | .day, .day2 | .day, .weekdayAbbr => true
  | .second2, .second2 | .second, .second2 => true
  | _, _ => false

end DisplayPart

namespace DisplayToken

def marks : DisplayToken → List Mark
  | .literal text => text.toList.map Mark.literal
  | .part shown => shown.marks

def fuses : DisplayToken → DisplayToken → Bool
  | .part left, .part right => left.fuses right
  | _, _ => false

end DisplayToken

/-- No two tokens that stand side by side fuse. -/
def Apart (tokens : List DisplayToken) : Prop :=
  tokens.IsChain fun left right => left.fuses right = false

theorem leads_split (lead cs rest : List Char) :
    leads lead (cs ++ rest) =
      (leads (lead.take cs.length) cs && leads (lead.drop cs.length) rest) := by
  induction cs generalizing lead with
  | nil => cases lead <;> rfl
  | cons c cs ih =>
    cases lead with
    | nil => cases rest <;> rfl
    | cons p lead =>
      rw [List.cons_append, List.length_cons, List.take_succ_cons, List.drop_succ_cons,
        leads_cons, leads_cons, ih, Bool.and_assoc]

theorem leads_append_of_leads (starts : leads lead cs = true) (rest : List Char) :
    leads lead (cs ++ rest) = true := by
  have whole := leads_split lead cs []
  rw [List.append_nil, starts] at whole
  obtain ⟨first, last⟩ := Bool.and_eq_true_iff.1 whole.symm
  rw [leads_split, first, Bool.true_and]
  cases more : lead.drop cs.length with
  | nil => cases rest <;> rfl
  | cons p tail =>
    rw [more] at last
    cases last

theorem length_le_of_leads (starts : leads lead cs = true) : lead.length ≤ cs.length := by
  obtain ⟨rest, found⟩ := Option.isSome_iff_exists.1 starts
  rw [length_of_rest? found]
  exact Nat.le_add_right _ _

def goesOn (next : Option Char) (cs : List Char) : Bool :=
  match next, cs with
  | some p, c :: _ => p.toLower == c.toLower
  | _, _ => false

theorem goesOn_nil (next : Option Char) : goesOn next [] = false := by
  cases next <;> rfl

theorem goesOn_append (next : Option Char) (filled : cs ≠ []) (rest : List Char) :
    goesOn next (cs ++ rest) = goesOn next cs := by
  cases cs with
  | nil => exact absurd rfl filled
  | cons c cs => cases next <;> rfl

theorem leads_of_not_goesOn {lead : List Char} (stops : goesOn lead.head? cs = false)
    (filled : lead ≠ []) : leads lead cs = false := by
  cases lead with
  | nil => exact absurd rfl filled
  | cons p lead =>
    cases cs with
    | nil => rfl
    | cons c cs =>
      change (p.toLower == c.toLower) = false at stops
      rw [leads_cons, stops, Bool.false_and]

/-- In a list from the longest to the shortest, the first that is found is the longest of all. -/
theorem le_of_find {α : Type} {list : List α} {p : α → Bool} {a b : α} (size : α → Nat)
    (sorted : list.Pairwise fun a b => size b ≤ size a) (found : list.find? p = some a)
    (known : b ∈ list) (holds : p b = true) : size b ≤ size a := by
  obtain ⟨-, earlier, later, split, passed⟩ := List.find?_eq_some_iff_append.1 found
  rw [split] at known sorted
  rcases List.mem_append.1 known with member | member
  · have other := passed b member
    rw [holds] at other
    cases other
  · rcases List.mem_cons.1 member with rfl | member
    · exact Nat.le_refl _
    · exact (List.pairwise_cons.1 (List.pairwise_append.1 sorted).2.1).1 b member

theorem length_le_of_find
    (found : (tokens.find? fun token => leads token.word.toList cs) = some token)
    (known : other ∈ tokens) (starts : leads other.word.toList cs = true) :
    other.word.length ≤ token.word.length :=
  le_of_find (fun token : Token => token.word.length) (by decide +kernel) found known starts

theorem DisplayPart.mem_all (part : DisplayPart) : part ∈ DisplayPart.all := by
  cases part <;> decide

theorem next_of_leads (part : DisplayPart) (known : token ∈ tokens)
    (starts : leads (token.word.toList.take part.keyword.length) part.keyword = true)
    (longer : token.word.toList.drop part.keyword.length ≠ []) :
    (token.word.toList.drop part.keyword.length).head? = part.next? := by
  have table : (DisplayPart.all.all fun part => tokens.all fun token =>
      !leads (token.word.toList.take part.keyword.length) part.keyword ||
        (token.word.toList.drop part.keyword.length).isEmpty ||
          (token.word.toList.drop part.keyword.length).head? == part.next?) = true := by
    decide +kernel
  have row := List.all_eq_true.1 (List.all_eq_true.1 table part part.mem_all) token known
  rw [starts, List.isEmpty_eq_false_iff.2 longer] at row
  exact eq_of_beq row

theorem find_keyword (part : DisplayPart) :
    ∃ token, (tokens.find? fun token => leads token.word.toList part.keyword) = some token ∧
      token.word.length = part.keyword.length := by
  have table : (DisplayPart.all.all fun part =>
      (tokens.find? fun token => leads token.word.toList part.keyword).any fun token =>
        token.word.length == part.keyword.length) = true := by decide +kernel
  have row := List.all_eq_true.1 table part part.mem_all
  cases found : tokens.find? fun token => leads token.word.toList part.keyword with
  | none =>
    rw [found] at row
    cases row
  | some token =>
    rw [found] at row
    exact ⟨token, rfl, eq_of_beq row⟩

theorem find_append (part : DisplayPart) (stops : goesOn part.next? rest = false) :
    (tokens.find? fun token => leads token.word.toList (part.keyword ++ rest)) =
      tokens.find? fun token => leads token.word.toList part.keyword := by
  rw [← List.head?_filter, ← List.head?_filter]
  apply congrArg List.head?
  apply List.filter_congr
  intro token known
  have whole := leads_split token.word.toList part.keyword []
  rw [List.append_nil] at whole
  rw [leads_split, whole]
  cases starts : leads (token.word.toList.take part.keyword.length) part.keyword with
  | false => rfl
  | true =>
    by_cases longer : token.word.toList.drop part.keyword.length = []
    · rw [longer]
      cases rest <;> rfl
    · have next := next_of_leads part known starts longer
      rw [leads_of_not_goesOn (next ▸ stops) longer,
        leads_of_not_goesOn (goesOn_nil _) longer]

theorem keyword_cons (part : DisplayPart) :
    ∃ c rest, part.keyword = c :: rest ∧ c ≠ doubleQuote ∧ ('F'.toLower == c.toLower) = false := by
  have table : (DisplayPart.all.all fun part =>
      part.keyword.head?.any fun c => c != doubleQuote && !('F'.toLower == c.toLower)) =
        true := by decide +kernel
  have row := List.all_eq_true.1 table part part.mem_all
  cases word : part.keyword with
  | nil =>
    rw [word] at row
    cases row
  | cons c rest =>
    rw [word] at row
    have both := Bool.and_eq_true_iff.1 row
    exact ⟨c, rest, rfl, bne_iff_ne.1 both.1, (Bool.not_eq_true' _).mp both.2⟩

theorem scan_fill (rest : List Char) :
    scan readMark .literal (.plain 0) ('F' :: 'M' :: rest) =
      .ok .fill :: scan readMark .literal (.plain 0) rest := by
  have read : readMark ('F' :: 'M' :: rest) = .ok (some .fill, 1) := by rfl
  rw [scan, if_neg (by decide), read]
  dsimp only
  rw [scan_plain]
  rfl

theorem scan_word (plain : c ≠ doubleQuote) (padded : ('F'.toLower == c.toLower) = false)
    (found : (tokens.find? fun token => leads token.word.toList (c :: cs)) = some token) :
    scan readMark .literal (.plain 0) (c :: cs) =
      .ok (.word ((c :: cs).take token.word.length)) ::
        scan readMark .literal (.plain 0) (cs.drop (token.word.length - 1)) := by
  have notFill : leads "FM".toList (c :: cs) = false := by
    change leads ('F' :: ['M']) (c :: cs) = false
    rw [leads_cons, padded, Bool.false_and]
  have read : readMark (c :: cs) =
      .ok (some (.word ((c :: cs).take token.word.length)), token.word.length - 1) := by
    rw [readMark, notFill, if_neg Bool.false_ne_true, found]
  rw [scan, if_neg plain, read]
  dsimp only
  rw [scan_plain]

theorem scan_keyword (part : DisplayPart) (stops : goesOn part.next? rest = false) :
    scan readMark .literal (.plain 0) (part.keyword ++ rest) =
      .ok (.word part.keyword) :: scan readMark .literal (.plain 0) rest := by
  obtain ⟨token, found, length⟩ := find_keyword part
  rw [← find_append part stops] at found
  obtain ⟨c, tail, word, plain, padded⟩ := keyword_cons part
  rw [word] at found length ⊢
  rw [List.cons_append] at found ⊢
  rw [scan_word plain padded found, length, ← List.cons_append, List.take_left, List.length_cons,
    Nat.add_sub_cancel, List.drop_left]

theorem template_eq (part : DisplayPart) :
    part.template.toList =
      (if startsWith "FM".toList part.template.toList then ['F', 'M'] else []) ++ part.keyword := by
  cases part <;> rfl

theorem scan_part (part : DisplayPart) (stops : goesOn part.next? rest = false) :
    scan readMark .literal (.plain 0) (part.template.toList ++ rest) =
      part.marks.map .ok ++ scan readMark .literal (.plain 0) rest := by
  rw [template_eq, DisplayPart.marks, List.append_assoc]
  split
  · rw [List.cons_append, List.singleton_append, scan_fill, scan_keyword part stops]
    rfl
  · rw [List.nil_append, scan_keyword part stops]
    rfl

theorem scan_quoted (cs rest : List Char) :
    scan readMark .literal .quoted
        (cs.flatMap (fun c => if c = doubleQuote ∨ c = '\\' then ['\\', c] else [c]) ++
          doubleQuote :: rest) =
      (cs.map Mark.literal).map .ok ++ scan readMark .literal (.plain 0) rest := by
  induction cs with
  | nil => rw [List.flatMap_nil, List.nil_append, scan, if_pos rfl, List.map_nil, List.map_nil,
      List.nil_append]
  | cons c cs ih =>
    rw [List.flatMap_cons, List.map_cons, List.map_cons, List.cons_append, ← ih]
    split
    · rw [List.cons_append, List.singleton_append, List.cons_append, List.cons_append, scan,
        if_neg (by decide), if_pos rfl, scan]
    · next plain =>
        rw [not_or] at plain
        rw [List.singleton_append, List.cons_append, scan, if_neg plain.1, if_neg plain.2]

theorem scan_literal (text : String) (rest : List Char) :
    scan readMark .literal (.plain 0) ((quotedTemplate text).toList ++ rest) =
      (text.toList.map Mark.literal).map .ok ++ scan readMark .literal (.plain 0) rest := by
  rw [quotedTemplate, String.toList_ofList, List.cons_append, List.cons_append,
    List.append_assoc, List.singleton_append, scan, if_pos rfl]
  exact scan_quoted text.toList rest

theorem scan_fused {left : DisplayPart} (fuses : left.fuses right = true) (rest : List Char)
    (others : List (Except FormatFault Mark)) :
    scan readMark .literal (.plain 0) (left.keyword ++ (right.template.toList ++ rest)) ≠
      .ok (.word left.keyword) :: others := by
  have table : (DisplayPart.all.all fun left => DisplayPart.all.all fun right =>
      !left.fuses right || tokens.any fun token =>
        leads token.word.toList (left.keyword ++ right.template.toList) &&
          decide (left.keyword.length < token.word.length)) = true := by decide +kernel
  have row := List.all_eq_true.1 (List.all_eq_true.1 table left left.mem_all) right right.mem_all
  rw [fuses] at row
  obtain ⟨longer, known, fits⟩ := List.any_eq_true.1 row
  obtain ⟨starts, length⟩ := Bool.and_eq_true_iff.1 fits
  have starts := leads_append_of_leads starts rest
  rw [List.append_assoc] at starts
  obtain ⟨c, tail, word, plain, padded⟩ := keyword_cons left
  cases found : tokens.find? fun token =>
      leads token.word.toList (left.keyword ++ (right.template.toList ++ rest)) with
  | none => exact absurd starts (List.find?_eq_none.1 found longer known)
  | some token =>
    have longest := length_le_of_find found known starts
    have isWord : leads token.word.toList (left.keyword ++ (right.template.toList ++ rest)) =
      true := (List.find?_eq_some_iff_append.1 found).1
    have fits := length_le_of_leads isWord
    rw [String.length_toList] at fits
    rw [word, List.cons_append] at found fits
    rw [word, List.cons_append, scan_word plain padded found]
    intro same
    have words := Mark.word.inj (Except.ok.inj (List.cons.inj same).1)
    have lengths := congrArg List.length words
    rw [List.length_take_of_le fits, ← word] at lengths
    have := of_decide_eq_true length
    omega

theorem scan_part_fused {left : DisplayPart} (fuses : left.fuses right = true) (rest : List Char)
    (others : List (Except FormatFault Mark)) :
    scan readMark .literal (.plain 0) (left.template.toList ++ (right.template.toList ++ rest)) ≠
      left.marks.map .ok ++ others := by
  rw [template_eq left, DisplayPart.marks, List.append_assoc]
  split
  · rw [List.cons_append, List.singleton_append, scan_fill]
    intro same
    exact scan_fused fuses rest others (List.cons.inj same).2
  · rw [List.nil_append]
    exact scan_fused fuses rest others

theorem goesOn_displayTemplate (part : DisplayPart) (tokens : List DisplayToken) :
    goesOn part.next? (displayTemplate tokens).toList =
      tokens.head?.any (DisplayToken.fuses (.part part)) := by
  cases tokens with
  | nil => exact goesOn_nil _
  | cons token rest =>
    rw [displayTemplate.eq_def]
    cases token with
    | literal text =>
      dsimp only
      rw [String.toList_append, quotedTemplate, String.toList_ofList]
      cases part <;> rfl
    | part shown =>
      have table : (DisplayPart.all.all fun left => DisplayPart.all.all fun right =>
          right.template.toList != [] &&
            goesOn left.next? right.template.toList == left.fuses right) = true := by decide +kernel
      have row :=
        List.all_eq_true.1 (List.all_eq_true.1 table part part.mem_all) shown shown.mem_all
      obtain ⟨filled, same⟩ := Bool.and_eq_true_iff.1 row
      dsimp only
      rw [String.toList_append, goesOn_append _ (bne_iff_ne.1 filled), eq_of_beq same]
      rfl

/-- A template is split into what was written for its tokens exactly if no two of them fuse. -/
theorem readMarks_eq_iff (tokens : List DisplayToken) :
    readMarks (displayTemplate tokens) = (tokens.flatMap DisplayToken.marks).map .ok ↔
      Apart tokens := by
  unfold readMarks Apart
  induction tokens with
  | nil => exact iff_of_true rfl .nil
  | cons token rest ih =>
    rw [List.isChain_cons, List.flatMap_cons, List.map_append, displayTemplate.eq_def]
    cases token with
    | literal text =>
      dsimp only
      rw [String.toList_append, scan_literal, DisplayToken.marks, List.append_right_inj, ih]
      exact (and_iff_right fun _ _ => rfl).symm
    | part shown =>
      dsimp only
      rw [String.toList_append, DisplayToken.marks]
      cases goes : goesOn shown.next? (displayTemplate rest).toList with
      | false =>
        rw [scan_part shown goes, List.append_right_inj, ih]
        rw [goesOn_displayTemplate] at goes
        refine (and_iff_right ?_).symm
        intro next member
        rw [member] at goes
        exact goes
      | true =>
        rw [goesOn_displayTemplate] at goes
        cases rest with
        | nil => cases goes
        | cons next rest =>
          refine iff_of_false ?_ fun both => ?_
          · cases next with
            | literal text => cases goes
            | part right =>
              rw [displayTemplate.eq_def]
              dsimp only
              rw [String.toList_append]
              exact scan_part_fused goes _ _
          · have apart := both.1 next rfl
            change DisplayToken.fuses (.part shown) next = true at goes
            rw [goes] at apart
            cases apart

end SheetSql.Format
