import SheetSql.Proofs.Format.Repeated
import SheetSql.Proofs.Matching.Steps

namespace SheetSql

/-!
The expression of a parse format as a text. Every format that can be read gives a regular
expression, and its numbered groups are the parts of a date that the format captures.
-/

open Pattern

/-- How many steps the text of an expression takes. -/
def Regex.stepCount : Regex → Nat
  | .empty => 0
  | .seq first second => first.stepCount + second.stepCount
  | .alt left right => left.stepCount + right.stepCount + 1
  | .group _ inner => inner.stepCount + 2
  | .rep inner _ _ => inner.stepCount + 1
  | _ => 1

namespace Pattern

/-- A part that is not nested too deep and leaves the classes to be those of characters. -/
def isSound (part : Pattern) : Bool :=
  decide (part.nesting < nestingLimit) && part.unicodeAfter? true == some true

theorem isUsable_seq {parts : List Pattern} (sound : ∀ part ∈ parts, part.isSound = true) :
    (Pattern.seq parts).isUsable = true := by
  have all : deepest parts < nestingLimit ∧ unicodeAfterAll? true parts = some true := by
    induction parts with
    | nil => exact ⟨by decide, rfl⟩
    | cons part parts ih =>
      rw [List.forall_mem_cons] at sound
      obtain ⟨shallow, unicode⟩ := Bool.and_eq_true_iff.1 sound.1
      obtain ⟨restShallow, restUnicode⟩ := ih sound.2
      rw [deepest, unicodeAfterAll?, eq_of_beq unicode]
      exact ⟨Nat.max_lt.2 ⟨of_decide_eq_true shallow, restShallow⟩, restUnicode⟩
  rw [isUsable, nesting, unicodeAfter?, all.2]
  exact Bool.and_eq_true_iff.2 ⟨decide_eq_true all.1, rfl⟩

end Pattern

namespace Format

/-- The reader after the text of a word, up to the end of its group. -/
def Token.inner? (token : Token) : Option Reader :=
  (steps token.pattern.stepCount .start (token.pattern.chars ++ [')'])).map (·.1)

set_option maxRecDepth 2000 in
/-- The words are data, so that the reader is run on each; it does not look beyond the group. -/
theorem steps_token : ∀ token ∈ tokens, ∀ groups names rest,
    steps token.pattern.stepCount ⟨false, [], [], groups, names⟩
        (token.pattern.chars ++ ')' :: rest) =
      token.inner?.map fun reader =>
        (⟨false, reader.branches, reader.parts, groups, names⟩, ')' :: rest) := by
  simp only [tokens, List.forall_mem_cons, List.not_mem_nil, false_implies, implies_true, and_true]
  repeat' apply And.intro
  all_goals exact fun groups names rest => rfl

theorem inner_of_mem (known : token ∈ tokens) :
    ∃ reader, token.inner? = some reader ∧
      (Pattern.group ⟨none, none⟩ reader.whole).isSound = true ∧
      token.pattern.stepCount ≤ token.pattern.chars.length ∧
      ∀ rest, (token.pattern.chars ++ rest).head? ≠ some '?' := by
  have table : (tokens.all fun token =>
      (token.inner?.any fun reader => (Pattern.group ⟨none, none⟩ reader.whole).isSound) &&
        decide (token.pattern.stepCount ≤ token.pattern.chars.length) &&
        token.pattern.chars.head?.any (· != '?')) = true := by decide +kernel
  have row := List.all_eq_true.1 table token known
  simp only [Bool.and_eq_true, decide_eq_true_eq, Option.any_eq_true, bne_iff_ne] at row
  obtain ⟨⟨⟨reader, inner, sound⟩, short⟩, c, head, other⟩ := row
  refine ⟨reader, inner, sound, short, fun rest => ?_⟩
  rw [List.head?_append, head]
  simpa using other

theorem reads_value (known : token ∈ tokens) (captures : Bool) {reader : Reader}
    (plain : reader.verbose = false) (rest : List Char) :
    ∃ n part, n ≤ (Regex.group captures token.pattern).chars.length ∧ part.isSound = true ∧
      Reads n reader ((Regex.group captures token.pattern).chars ++ rest)
        (if captures then [((Regex.group captures token.pattern).chars ++ rest).tail] else [])
        (reader.add part) rest := by
  obtain ⟨inner, runs, sound, short, unmarked⟩ := inner_of_mem known
  have inside : Reads token.pattern.stepCount reader.inside (token.pattern.chars ++ ')' :: rest) []
      { reader.inside with branches := inner.branches, parts := inner.parts } (')' :: rest) := by
    refine reads_of_steps ((steps_token token known _ _ rest).trans ?_)
    rw [runs]
    rfl
  have reads := (reads_open captures plain (unmarked (')' :: rest))).trans
    (inside.trans (reads_close plain inner.branches inner.parts rest))
  rw [List.append_nil, List.append_nil] at reads
  refine ⟨1 + (token.pattern.stepCount + 1), .group ⟨none, none⟩ inner.whole, ?_, sound, ?_⟩
  · cases captures <;> simp [Regex.chars] <;> omega
  · cases captures <;> simp only [Regex.chars, List.append_assoc] <;> exact reads

theorem reads_blanks {reader : Reader} (plain : reader.verbose = false)
    (greedy : rest.head? ≠ some '?') :
    Reads 2 reader (Regex.blank.many.chars ++ rest) []
      (reader.add (.rep (.named false) 0 none)) rest := by
  have blank : Reads 1 reader ('\\' :: 's' :: '*' :: rest) [] (reader.add (.named false))
      ('*' :: rest) := .one plain rfl
  have many : step? (reader.add (.named false)) ('*' :: rest) =
      some (reader.add (.rep (.named false) 0 none), rest) :=
    congrArg (fun rest => some (_, rest)) (skipLazy_of_head greedy)
  exact blank.trans (.one plain many)

theorem exists_chars_field (token : Token) : ∃ cs, (Piece.field token).regex.chars = '(' :: cs := by
  have group : ∃ cs, (Regex.group token.part.isSome token.pattern).chars = '(' :: cs := by
    cases token.part.isSome <;> exact ⟨_, rfl⟩
  obtain ⟨cs, text⟩ := group
  rw [Piece.regex]
  split
  · exact ⟨cs ++ Regex.blank.many.chars, congrArg (· ++ Regex.blank.many.chars) text⟩
  · exact ⟨cs, text⟩

theorem head_piece (piece : Piece) (rest : List Char) :
    (piece.regex.chars ++ rest).head? ≠ some '?' := by
  cases piece with
  | literal c =>
    rw [Piece.regex, Regex.chars]
    split
    · simp
    · next isPlain =>
      intro same
      cases same
      exact isPlain rfl
  | blank => simp [Piece.regex, Regex.chars]
  | field token =>
    obtain ⟨cs, text⟩ := exists_chars_field token
    simp [text]

theorem reads_piece {piece : Piece} (known : ∀ token, piece = .field token → token ∈ tokens)
    {reader : Reader} (plain : reader.verbose = false) (greedy : rest.head? ≠ some '?') :
    ∃ n parts, n ≤ piece.regex.chars.length ∧ (∀ part ∈ parts, part.isSound = true) ∧
      Reads n reader (piece.regex.chars ++ rest)
        (if piece.part?.isSome then [(piece.regex.chars ++ rest).tail] else [])
        { reader with parts := parts ++ reader.parts } rest := by
  cases piece with
  | literal c =>
    refine ⟨1, [.char c], ?_, List.forall_mem_singleton.2 rfl, reads_char plain c rest⟩
    rw [Piece.regex, Regex.chars]
    split <;> simp
  | blank =>
    refine ⟨1, [.named false], Nat.le_succ 1, List.forall_mem_singleton.2 rfl, .one plain rfl⟩
  | field token =>
    have value := reads_value (known token rfl) token.part.isSome plain
    rw [Piece.regex]
    split
    · obtain ⟨n, part, short, sound, reads⟩ := value (Regex.blank.many.chars ++ rest)
      have padded := reads.trans (reads_blanks plain greedy)
      rw [List.append_nil, ← List.append_assoc] at padded
      refine ⟨n + 2, [.rep (.named false) 0 none, part], ?_, ?_, padded⟩
      · change _ ≤ (_ ++ Regex.blank.many.chars : List Char).length
        rw [List.length_append]
        exact Nat.add_le_add short (by decide)
      · exact List.forall_mem_cons.2 ⟨rfl, List.forall_mem_singleton.2 sound⟩
    · obtain ⟨n, part, short, sound, reads⟩ := value rest
      exact ⟨n, [part], short, List.forall_mem_singleton.2 sound, reads⟩

/-- The expression of pieces up to the end of a text. -/
def regexOf (pieces : List Piece) : Regex :=
  pieces.foldr (fun piece rest => .seq piece.regex rest) .finish

theorem head_regexOf (pieces : List Piece) : (regexOf pieces).chars.head? ≠ some '?' := by
  cases pieces with
  | nil => decide
  | cons piece pieces => exact head_piece piece _

/-- A capture describes a group if the piece that stands there has its part and gives its text. -/
def Describes (pieces : List Piece) (capture : Capture) (inner : List Char) : Prop :=
  ∃ token later, .field token :: later <:+ pieces ∧ token.part = some capture.part ∧
    token.isName = capture.isName ∧ '(' :: inner = (regexOf (.field token :: later)).chars

theorem Describes.cons (described : Describes pieces capture cs) (piece : Piece) :
    Describes (piece :: pieces) capture cs := by
  obtain ⟨token, later, after, rest⟩ := described
  exact ⟨token, later, after.trans (List.suffix_cons piece pieces), rest⟩

theorem describes_piece (index : Nat) (piece : Piece) (pieces : List Piece) :
    ∃ first next, capturesFrom index (piece :: pieces) = first ++ capturesFrom next pieces ∧
      List.Forall₂ (Describes (piece :: pieces)) first
        (if piece.part?.isSome then [(regexOf (piece :: pieces)).chars.tail] else []) := by
  cases dated : piece.part? with
  | none => exact ⟨[], index, capturesFrom_of_none dated index pieces, .nil⟩
  | some part =>
    cases piece with
    | literal c => cases dated
    | blank => cases dated
    | field token =>
      have dated : token.part = some part := dated
      obtain ⟨cs, text⟩ := exists_chars_field token
      refine ⟨[⟨part, index, token.isName⟩], index + 1, by rw [capturesFrom, dated]; rfl,
        .cons ⟨token, pieces, List.suffix_refl _, dated, rfl, ?_⟩ .nil⟩
      change _ = (Piece.field token).regex.chars ++ _
      simp [regexOf, Regex.chars, text]

theorem reads_pieces {pieces : List Piece} (known : ∀ token, .field token ∈ pieces → token ∈ tokens)
    (index : Nat) {reader : Reader} (plain : reader.verbose = false) :
    ∃ n opened parts, n ≤ (regexOf pieces).chars.length ∧ (∀ part ∈ parts, part.isSound = true) ∧
      List.Forall₂ (Describes pieces) (capturesFrom index pieces) opened ∧
      Reads n reader (regexOf pieces).chars opened
        { reader with parts := .assertion :: (parts ++ reader.parts) } [] := by
  induction pieces generalizing index reader with
  | nil => exact ⟨1, [], [], Nat.le_refl 1, List.forall_mem_nil _, .nil, .one plain rfl⟩
  | cons piece pieces ih =>
    obtain ⟨n, parts, short, sound, reads⟩ := reads_piece
      (fun token same => known token (same ▸ List.mem_cons_self)) plain (head_regexOf pieces)
    obtain ⟨first, next, captures, describes⟩ := describes_piece index piece pieces
    have plain' : ({ reader with parts := parts ++ reader.parts } : Reader).verbose = false := plain
    obtain ⟨m, opened, parts', short', sound', others, readsMore⟩ :=
      ih (fun token member => known token (List.mem_cons_of_mem _ member)) next plain'
    rw [captures]
    refine ⟨n + m, _ ++ opened, parts' ++ parts, ?_, ?_, List.rel_append describes
      (others.imp fun _ _ opens => opens.cons piece), ?_⟩
    · change _ ≤ (_ ++ (regexOf pieces).chars : List Char).length
      rw [List.length_append]
      exact Nat.add_le_add short short'
    · exact List.forall_mem_append.2 ⟨sound', sound⟩
    · rw [List.append_assoc]
      exact reads.trans readsMore

theorem map_index_capturesFrom (index : Nat) (pieces : List Piece) :
    (capturesFrom index pieces).map (·.index) =
      List.range' index (capturesFrom index pieces).length := by
  induction pieces generalizing index with
  | nil => rfl
  | cons piece pieces ih =>
    cases dated : piece.part? with
    | none => rw [capturesFrom_of_none dated, ih]
    | some part =>
      obtain ⟨isName, captures⟩ := capturesFrom_of_some dated index pieces
      rw [captures, List.map_cons, ih, List.length_cons, List.range'_succ]

theorem fault_of_readPiece (failed : readPiece cs = .error fault) :
    fault = .zoneName ∨ fault = .isoWeek := by
  have unreadable : unreadable? cs = some fault := by
    cases cs with
    | nil => cases failed
    | cons c rest =>
      rw [readPiece] at failed
      split at failed
      · cases failed
      · split at failed
        · next found =>
          cases failed
          exact found
        · split at failed <;> cases failed
  unfold unreadable? at unreadable
  grind

theorem fault_of_mem_scan {state : ScanState} {cs : List Char}
    (member : .error fault ∈ scan readPiece .literal state cs) :
    fault = .unterminated ∨ fault = .zoneName ∨ fault = .isoWeek := by
  fun_induction scan readPiece Piece.literal state cs with
  | case6 c rest _ found reads =>
    cases List.mem_singleton.1 member
    exact .inr (fault_of_readPiece reads)
  | _ => grind

theorem fault_of_distinct {α κ : Type} [DecidableEq κ] {key : α → Option κ}
    {twice : κ → FormatFault} {seen : List κ} {items : List (Except FormatFault α)}
    (failed : distinct key twice seen items = .error fault) :
    .error fault ∈ items ∨ ∃ k, fault = twice k := by
  fun_induction distinct key twice seen items with
  | case1 => cases failed
  | case2 =>
    cases failed
    exact .inl List.mem_cons_self
  | case4 _ _ _ k =>
    cases failed
    exact .inr ⟨k, rfl⟩
  | case3 seen piece rest _ ih | case5 seen piece rest k _ _ ih =>
    cases later : distinct key twice _ rest with
    | ok tail =>
      rw [later] at failed
      cases failed
    | error other =>
      rw [later] at failed ih
      exact (ih failed).imp_left (List.mem_cons_of_mem _)

/-- Reading a format fails for these reasons only. -/
theorem fault_of_read (failed : Template.read format = .error fault) :
    fault ∈ [.empty, .unterminated, .zoneName, .isoWeek] ∨ ∃ slot, fault = .slotTwice slot := by
  unfold Template.read at failed
  split at failed
  · cases failed
    exact .inl List.mem_cons_self
  · cases pieces : distinct Piece.slot? .slotTwice []
        (scan readPiece .literal (.plain 0) format.toList) with
    | ok found =>
      rw [pieces] at failed
      cases failed
    | error other =>
      rw [pieces] at failed
      cases failed
      refine (fault_of_distinct pieces).imp_left fun member => ?_
      rcases fault_of_mem_scan member with rfl | rfl | rfl <;> simp

theorem exists_regexOf (pieces : List Piece) :
    ∃ middle, (regexOf pieces).chars = middle ++ ['$'] := by
  induction pieces with
  | nil => exact ⟨[], rfl⟩
  | cons piece pieces ih =>
    obtain ⟨middle, text⟩ := ih
    refine ⟨piece.regex.chars ++ middle, ?_⟩
    rw [List.append_assoc, ← text]
    rfl

/--
A format that cannot be read is empty, ends in a literal, asks for what cannot be parsed or sets a
slot twice. Every other format gives the text of a regular expression that is anchored at both
ends. Its numbered groups are those that the captures describe, in their order and numbered from
one.
-/
theorem regex_accepted_and_numbered (format : String) :
    (∃ fault, Template.read format = .error fault ∧
      (fault ∈ [.empty, .unterminated, .zoneName, .isoWeek] ∨ ∃ slot, fault = .slotTwice slot)) ∨
    ∃ template, Template.read format = .ok template ∧
      Pattern.isText template.regex.text = true ∧
      (∃ middle, template.regex.text.toList = '^' :: (middle ++ ['$'])) ∧
      (∃ parts, Pattern.ofText? template.regex.text =
        some (.seq (.assertion :: (parts ++ [.assertion])))) ∧
      template.captures.map (·.index) = List.range' 1 template.captures.length ∧
      List.Forall₂ (Describes template.pieces) template.captures
        (openings (template.regex.text.toList.length + 1) .start template.regex.text.toList) := by
  cases read : Template.read format with
  | error fault => exact .inl ⟨fault, rfl, fault_of_read read⟩
  | ok template =>
    have known : ∀ token, .field token ∈ template.pieces → token ∈ tokens := fun token =>
      mem_tokens_of_read read
    have plain : (Reader.start.add .assertion).verbose = false := rfl
    obtain ⟨n, opened, parts, short, sound, describes, reads⟩ := reads_pieces known 1 plain
    have start : Reads 1 .start ('^' :: (regexOf template.pieces).chars) [] _ _ := .one rfl rfl
    have text : template.regex.text.toList = '^' :: (regexOf template.pieces).chars :=
      String.toList_ofList
    have enough : 1 + n < template.regex.text.toList.length + 1 := by
      rw [text, List.length_cons]
      omega
    have whole := start.trans reads
    rw [← text] at whole
    obtain ⟨taken, opens⟩ := whole.read? rfl rfl enough
    have tree : Pattern.ofText? template.regex.text =
        some (.seq (.assertion :: (parts.reverse ++ [.assertion]))) := by
      rw [Pattern.ofText?, taken]
      cases filled : parts.reverse <;>
        simp [Reader.whole, Reader.branch, Reader.add, Reader.start, ofBranches, ofParts, filled]
    obtain ⟨middle, ends⟩ := exists_regexOf template.pieces
    refine .inr ⟨template, rfl, ?_, ⟨middle, text.trans (congrArg _ ends)⟩, ⟨_, tree⟩,
      map_index_capturesFrom 1 template.pieces, opens ▸ describes⟩
    rw [Pattern.isText, tree]
    refine isUsable_seq fun part member => ?_
    rcases List.mem_cons.1 member with rfl | member
    · rfl
    · rcases List.mem_append.1 member with member | member
      · exact sound part (List.mem_reverse.1 member)
      · rw [List.mem_singleton.1 member]
        rfl

end Format

end SheetSql
