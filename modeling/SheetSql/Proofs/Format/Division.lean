import SheetSql.Proofs.Format.Marks
import SheetSql.Proofs.Substitution.Occurrence

namespace SheetSql.Format

/-! Display formats are divided into tokens without loss. -/

def DisplayItem.spelling : DisplayItem → List Char
  | .literal c => [c]
  | .part p => p.word.toList

namespace DisplayToken

def items : DisplayToken → List DisplayItem
  | .literal text => text.toList.map .literal
  | .part p => [.part p]

def spelling : DisplayToken → List Char
  | .literal text => text.toList
  | .part p => p.word.toList

def isLiteral : DisplayToken → Bool
  | .literal _ => true
  | .part _ => false

end DisplayToken

inductive DisplayPiece where
  | escape (content : List Char)
  | word (part : DisplayPart)
  | single (c : Char)
  deriving DecidableEq, Repr

namespace DisplayPiece

def source : DisplayPiece → List Char
  | .escape content => '[' :: content ++ [']']
  | .word part => part.word.toList
  | .single c => [c]

def shown : DisplayPiece → List Char
  | .escape content => content
  | piece => piece.source

def items : DisplayPiece → List DisplayItem
  | .escape content => content.map .literal
  | .word part => [.part part]
  | .single c => [.literal c]

/-- Whether a format that goes on with `rest` after a piece has this piece at its start. -/
def Starts (rest : List Char) : DisplayPiece → Prop
  | .escape content => ']' ∉ content
  | .word part => ∀ other : DisplayPart, other.word.toList <+: part.word.toList ++ rest →
      other.word.length ≤ part.word.length
  | .single c => ¬(c = '[' ∧ ']' ∈ rest) ∧ ∀ part : DisplayPart, ¬part.word.toList <+: c :: rest

/-- Each piece is the one at the start of what is left. -/
def Divide : List DisplayPiece → Prop
  | [] => True
  | piece :: rest => piece.Starts (rest.flatMap source) ∧ Divide rest

end DisplayPiece

open DisplayPiece

theorem flatMap_spelling_literal (cs : List Char) :
    (cs.map DisplayItem.literal).flatMap DisplayItem.spelling = cs := by
  rw [List.flatMap_map]
  exact List.flatMap_singleton' cs

theorem DisplayPiece.spelling_items (piece : DisplayPiece) :
    piece.items.flatMap DisplayItem.spelling = piece.shown := by
  cases piece with
  | escape content => exact flatMap_spelling_literal content
  | word part => exact List.append_nil _
  | single c => rfl

theorem DisplayToken.spelling_items (token : DisplayToken) :
    token.items.flatMap DisplayItem.spelling = token.spelling := by
  cases token with
  | literal text => exact flatMap_spelling_literal text.toList
  | part part => exact List.append_nil _

theorem DisplayPart.length_word_pos (part : DisplayPart) : 0 < part.word.length := by
  cases part <;> decide

/-- The words are tried from the longest to the shortest. -/
theorem length_word_le {part : DisplayPart}
    (found : DisplayPart.all.find? (fun part => Text.startsWith part.word.toList cs) = some part)
    (other : DisplayPart) (leads : other.word.toList <+: cs) :
    other.word.length ≤ part.word.length :=
  le_of_find (fun part : DisplayPart => part.word.length) (by decide) found other.mem_all
    ((Chars.startsWith_iff _ _).2 leads)

theorem displayItems_bracketed (inside : ']' ∉ content) (rest : List Char) :
    displayItems .bracketed (content ++ ']' :: rest) =
      content.map .literal ++ displayItems (.plain 0) rest := by
  induction content with
  | nil => rw [List.nil_append, displayItems, if_pos rfl, List.map_nil, List.nil_append]
  | cons c content ih =>
    rw [List.mem_cons, not_or] at inside
    rw [List.cons_append, displayItems, if_neg (Ne.symm inside.1), ih inside.2]
    rfl

theorem exists_first (c : Char) (rest : List Char) :
    ∃ (piece : DisplayPiece) (after : List Char), c :: rest = piece.source ++ after ∧
      piece.Starts after ∧
      displayItems (.plain 0) (c :: rest) = piece.items ++ displayItems (.plain 0) after := by
  by_cases escape : c = '[' ∧ ']' ∈ rest
  · obtain ⟨rfl, closed⟩ := escape
    obtain ⟨content, after, rfl, inside⟩ := List.eq_append_cons_of_mem closed
    refine ⟨.escape content, after, by simp [source], inside, ?_⟩
    rw [displayItems, if_pos ⟨rfl, closed⟩, displayItems_bracketed inside]
    rfl
  · rw [displayItems, if_neg escape]
    split
    · next part found =>
        have leads := List.find?_some found
        obtain ⟨after, split⟩ := (Chars.startsWith_iff _ _).1 leads
        have left : rest.drop (part.word.length - 1) = after := by
          rw [← List.drop_succ_cons (a := c), Nat.sub_add_cancel part.length_word_pos, ← split,
            ← String.length_toList, List.drop_left]
        refine ⟨.word part, after, split.symm, ?_, ?_⟩
        · intro other
          rw [split]
          exact length_word_le found other
        · rw [displayItems_plain, left]
          rfl
    · next none =>
        refine ⟨.single c, rest, rfl, ⟨escape, ?_⟩, rfl⟩
        intro part leads
        exact List.find?_eq_none.1 none part part.mem_all ((Chars.startsWith_iff _ _).2 leads)

theorem exists_divide (cs : List Char) :
    ∃ pieces, pieces.flatMap source = cs ∧ Divide pieces ∧
      displayItems (.plain 0) cs = pieces.flatMap items := by
  induction size : cs.length using Nat.strong_induction_on generalizing cs with
  | h n ih =>
    cases cs with
    | nil => exact ⟨[], rfl, trivial, rfl⟩
    | cons c rest =>
      obtain ⟨piece, after, split, starts, reads⟩ := exists_first c rest
      have filled : 0 < piece.source.length := by
        cases piece with
        | word part =>
          rw [source, String.length_toList]
          exact part.length_word_pos
        | _ => exact Nat.succ_pos _
      rw [split, List.length_append] at size
      obtain ⟨pieces, rfl, divide, same⟩ := ih after.length (by omega) after rfl
      exact ⟨piece :: pieces, split.symm, ⟨starts, divide⟩, by rw [reads, same]; rfl⟩

section

variable (run : List Char) (found : List DisplayItem)

theorem items_gather : (gather run found).flatMap DisplayToken.items =
    run.reverse.map .literal ++ found := by
  have flush : ∀ run, (gather.flush run).flatMap DisplayToken.items =
      run.reverse.map .literal := by
    intro run
    cases run <;> simp [gather.flush, DisplayToken.items]
  induction found generalizing run with
  | nil => rw [gather, flush, List.append_nil]
  | cons item found ih =>
    cases item with
    | literal c => simp [gather, ih]
    | part p => simp [gather, ih, flush, DisplayToken.items]

theorem not_mem_gather : .literal "" ∉ gather run found := by
  have flush : ∀ run, .literal "" ∉ gather.flush run := by
    intro run
    cases run <;> simp [gather.flush]
  induction found generalizing run with
  | nil => exact flush run
  | cons item found ih =>
    cases item with
    | literal c => exact ih _
    | part p => simp [gather, flush, ih]

theorem isChain_gather :
    (gather run found).IsChain fun a b => (a.isLiteral && b.isLiteral) = false := by
  induction found generalizing run with
  | nil => cases run <;> simp [gather, gather.flush]
  | cons item found ih =>
    cases item with
    | literal c => exact ih _
    | part p =>
      have rest : (.part p :: gather [] found).IsChain fun a b : DisplayToken =>
          (a.isLiteral && b.isLiteral) = false :=
        List.isChain_cons.2 ⟨fun _ _ => rfl, ih []⟩
      rw [gather]
      cases run with
      | nil => exact rest
      | cons c run => exact List.isChain_cons_cons.2 ⟨rfl, rest⟩

end

theorem flatMap_shown {pieces : List DisplayPiece} (plain : '[' ∉ pieces.flatMap source) :
    pieces.flatMap shown = pieces.flatMap source := by
  refine List.flatMap_congr fun piece member => ?_
  cases piece with
  | escape content =>
    exact absurd (List.mem_flatMap.2 ⟨_, member, List.mem_cons_self⟩) plain
  | word part => rfl
  | single c => rfl

/--
A display format is divided from left to right into texts in closed brackets, the longest words,
and single characters. The tokens are these pieces with the brackets left out and the literal
characters in a row put together, so that they spell the format again, but for those brackets.
-/
theorem displayTokens_lossless (format : String) :
    ∃ pieces, pieces.flatMap source = format.toList ∧ Divide pieces ∧
      (displayTokens format).flatMap DisplayToken.items = pieces.flatMap items ∧
      (displayTokens format).flatMap DisplayToken.spelling = pieces.flatMap shown ∧
      .literal "" ∉ displayTokens format ∧
      ((displayTokens format).IsChain fun a b => (a.isLiteral && b.isLiteral) = false) ∧
      ('[' ∉ format.toList →
        (displayTokens format).flatMap DisplayToken.spelling = format.toList) := by
  obtain ⟨pieces, split, divide, reads⟩ := exists_divide format.toList
  have same : (displayTokens format).flatMap DisplayToken.items = pieces.flatMap items := by
    rw [displayTokens, items_gather, reads]
    rfl
  have spelled : (displayTokens format).flatMap DisplayToken.spelling = pieces.flatMap shown := by
    have texts := congrArg (List.flatMap DisplayItem.spelling) same
    simpa only [List.flatMap_assoc, DisplayToken.spelling_items, spelling_items] using texts
  refine ⟨pieces, split, divide, same, spelled, not_mem_gather _ _, isChain_gather _ _, ?_⟩
  intro plain
  rw [spelled, flatMap_shown (split ▸ plain), split]

theorem displayTokens_lossless_meridiem :
    '[' ∉ "hh]mm Aa".toList ∧
      (displayTokens "hh]mm Aa").flatMap DisplayToken.spelling = "hh]mm Aa".toList := by
  have plain : '[' ∉ "hh]mm Aa".toList := by decide
  obtain ⟨-, -, -, -, -, -, -, spelled⟩ := displayTokens_lossless "hh]mm Aa"
  exact ⟨plain, spelled plain⟩

end SheetSql.Format
