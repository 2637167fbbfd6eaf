import SheetSql.Proofs.Embedding.Closing
import SheetSql.Proofs.Number.Numeral

namespace SheetSql

/-! The texts that can be operands as they stand. -/

open Text Sql

/-- Letters, digits and underscores in a row, or a quoted token. -/
inductive IsLink : List Char → Prop
  | word (filled : run ≠ []) (all : ∀ c ∈ run, isWordChar c = true) : IsLink run
  | quoted (content : List Char) (quote : isQuote q = true) :
      IsLink (q :: (double q content ++ [q]))

/-- Links with points between them, perhaps with a group in brackets at the end. -/
inductive IsLinked : List Char → Prop
  | last (link : IsLink cs) : IsLinked cs
  | call (link : IsLink cs) (encloses : Encloses group content) : IsLinked (cs ++ group)
  | next (link : IsLink cs) (more : IsLinked rest) : IsLinked (cs ++ '.' :: rest)

def Follows (cs : List Char) : Prop :=
  cs = [] ∨ (∃ content, Encloses cs content) ∨ ∃ more, cs = '.' :: more ∧ IsLinked more

theorem IsLink.append (link : IsLink cs) (follows : Follows rest) : IsLinked (cs ++ rest) := by
  rcases follows with rfl | ⟨content, encloses⟩ | ⟨more, rfl, linked⟩
  · rw [List.append_nil]
    exact .last link
  · exact .call link encloses
  · exact .next link linked

/-- What a text is that is accepted in a state. -/
def Sql.ChainState.Accepts : ChainState → List Char → Prop
  | .start, cs => IsLinked cs
  | .word, cs => ∃ run rest, cs = run ++ rest ∧ (∀ c ∈ run, isWordChar c = true) ∧ Follows rest
  | .quoted q, cs => ∃ content rest, cs = double q content ++ q :: rest ∧ Follows rest
  | .closed q, cs => Follows cs ∨
      ∃ content rest, cs = q :: (double q content ++ q :: rest) ∧ Follows rest

theorem follows_of_group (group : (c == '(' && closesAtEnd rest) = true) : Follows (c :: rest) := by
  rw [Bool.and_eq_true, beq_iff_eq, closesAtEnd_iff] at group
  obtain ⟨rfl, encloses⟩ := group
  exact .inr (.inl encloses)

theorem accepts_of_isChain (chain : isChain state cs = true) : state.Accepts cs := by
  fun_induction isChain state cs with
  | case1 => cases chain
  | case2 c rest quote ih =>
    obtain ⟨content, after, rfl, follows⟩ := ih chain
    have linked := (IsLink.quoted content quote).append follows
    rwa [List.cons_append, List.append_assoc] at linked
  | case3 c rest _ ih =>
    rw [Bool.and_eq_true] at chain
    obtain ⟨run, after, rfl, all, follows⟩ := ih chain.2
    exact (IsLink.word (List.cons_ne_nil c run) (by simpa using ⟨chain.1, all⟩)).append follows
  | case4 => cases chain
  | case5 q c rest ih =>
    have accepted := ih chain
    by_cases same : c = q
    · subst same
      rw [if_pos rfl] at accepted
      rcases accepted with follows | ⟨content, after, rfl, follows⟩
      · exact ⟨[], rest, rfl, follows⟩
      · exact ⟨c :: content, after, by simp [double], follows⟩
    · rw [if_neg same] at accepted
      obtain ⟨content, after, rfl, follows⟩ := accepted
      exact ⟨c :: content, after, by simp [double, same], follows⟩
  | case6 => exact .inl (.inl rfl)
  | case7 rest q ih =>
    obtain ⟨content, after, rfl, follows⟩ := ih chain
    exact .inr ⟨content, after, rfl, follows⟩
  | case8 q rest _ ih => exact .inl (.inr (.inr ⟨rest, rfl, ih chain⟩))
  | case9 => exact .inl (follows_of_group chain)
  | case10 => exact ⟨[], [], rfl, by simp, .inl rfl⟩
  | case11 c rest word ih =>
    obtain ⟨run, after, rfl, all, follows⟩ := ih chain
    exact ⟨c :: run, after, rfl, by simpa using ⟨word, all⟩, follows⟩
  | case12 rest _ ih => exact ⟨[], _, rfl, by simp, .inr (.inr ⟨rest, rfl, ih chain⟩)⟩
  | case13 => exact ⟨[], _, rfl, by simp, follows_of_group chain⟩

theorem isChain_run (all : ∀ c ∈ run, isWordChar c = true) (rest : List Char) :
    isChain .word (run ++ rest) = isChain .word rest := by
  induction run with
  | nil => rfl
  | cons c run ih =>
    rw [List.cons_append, isChain, if_pos (all c List.mem_cons_self)]
    exact ih fun d member => all d (List.mem_cons_of_mem c member)

theorem isChain_double (q : Char) (content rest : List Char) :
    isChain (.quoted q) (double q content ++ q :: rest) = isChain (.closed q) rest := by
  induction content with
  | nil => simp [double, isChain]
  | cons c content ih => by_cases same : c = q <;> simp [double, isChain, same, ih]

theorem plain_of_isWordChar (word : isWordChar c = true) :
    isQuote c = false ∧ c ≠ '(' ∧ c ≠ ')' :=
  plain_of_apart (by decide) word

theorem isChain_link (link : IsLink cs) (word : isChain .word rest = true)
    (closed : ∀ q, isQuote q = true → isChain (.closed q) rest = true) :
    isChain .start (cs ++ rest) = true := by
  cases link with
  | word filled all =>
    cases cs with
    | nil => exact absurd rfl filled
    | cons c run =>
      have first := all c List.mem_cons_self
      rw [List.cons_append, isChain, (plain_of_isWordChar first).1, first, isChain_run, word]
      · rfl
      · exact fun d member => all d (List.mem_cons_of_mem c member)
  | @quoted q content quote =>
    rw [List.cons_append, List.append_assoc, isChain, if_pos quote]
    exact (isChain_double q content rest).trans (closed q quote)

theorem ne_of_isQuote (plain : isQuote c = false) (quote : isQuote q = true) : c ≠ q := by
  rintro rfl
  cases plain.symm.trans quote

theorem isChain_of_isLinked (linked : IsLinked cs) : isChain .start cs = true := by
  induction linked with
  | @last cs link =>
    rw [← List.append_nil cs]
    exact isChain_link link rfl fun _ _ => rfl
  | call link encloses =>
    obtain ⟨rfl, -⟩ := id encloses
    have closes := closesAtEnd_iff.2 ⟨_, encloses⟩
    refine isChain_link link closes fun q quote => ?_
    rw [isChain, if_neg (ne_of_isQuote rfl quote)]
    exact closes
  | next link more ih =>
    refine isChain_link link ih fun q quote => ?_
    rw [isChain, if_neg (ne_of_isQuote rfl quote)]
    exact ih

theorem isChain_iff : isChain .start cs = true ↔ IsLinked cs :=
  ⟨accepts_of_isChain, isChain_of_isLinked⟩

def IsUnsigned (cs : List Char) : Prop :=
  ∃ mantissa power, cs = mantissa ++ power ∧ IsMantissa mantissa ∧ IsPower power

theorem isSome_read?_iff : (Decimal.read? cs).isSome = true ↔ IsNumeral cs := by
  rw [isNumeral_iff, Option.isSome_iff_exists]
  constructor
  · rintro ⟨decimal, read⟩
    obtain ⟨number, text⟩ := Written.exists_of_read? read
    exact ⟨number, text.symm⟩
  · rintro ⟨number, rfl⟩
    exact ⟨_, number.read?_text⟩

theorem head_of_isUnsigned (unsigned : IsUnsigned (c :: cs)) : (c.isDigit || c == '.') = true := by
  obtain ⟨mantissa, power, split, isMantissa, -⟩ := unsigned
  obtain ⟨digit, member, -⟩ := isMantissa.digit
  cases mantissa with
  | nil => cases member
  | cons d rest =>
    cases split
    exact isMantissa.chars c List.mem_cons_self

theorem isUnsigned_iff :
    IsUnsigned (c :: cs) ↔ ((Decimal.read? (c :: cs)).isSome && c != '-' && c != '+') = true := by
  rw [Bool.and_eq_true, Bool.and_eq_true, isSome_read?_iff, bne_iff_ne, bne_iff_ne]
  constructor
  · intro unsigned
    have first := head_of_isUnsigned unsigned
    obtain ⟨mantissa, power, split, parts⟩ := unsigned
    refine ⟨⟨⟨[], mantissa, power, split, .inl rfl, parts⟩, ?_⟩, ?_⟩
    · rintro rfl
      exact absurd first (by decide)
    · rintro rfl
      exact absurd first (by decide)
  · rintro ⟨⟨⟨sign, mantissa, power, split, rfl | rfl | rfl, parts⟩, noMinus⟩, noPlus⟩
    · exact ⟨mantissa, power, split, parts⟩
    · exact absurd (List.cons.inj split).1 noMinus
    · exact absurd (List.cons.inj split).1 noPlus

theorem isAtomic_iff (sql : String) :
    isAtomic sql = true ↔ (∃ content, Encloses (trim sql.toList) content) ∨
      IsUnsigned (trim sql.toList) ∨ IsLinked (trim sql.toList) := by
  rw [isAtomic, ← isChain_iff]
  generalize trim sql.toList = cs
  split
  · rw [Bool.false_eq_true, false_iff]
    rintro (⟨_, same, -⟩ | ⟨mantissa, _, split, isMantissa, -⟩ | chain)
    · cases same
    · obtain ⟨_, member, -⟩ := isMantissa.digit
      rw [(List.append_eq_nil_iff.1 split.symm).1] at member
      cases member
    · cases chain
  · next rest =>
      rw [closesAtEnd_iff]
      refine ⟨.inl, ?_⟩
      rintro (encloses | unsigned | chain)
      · exact encloses
      · exact absurd (head_of_isUnsigned unsigned) (by decide)
      · cases chain
  · next c rest other =>
      rw [Bool.or_eq_true, ← isUnsigned_iff]
      refine ⟨.inr, fun shape => shape.resolve_left ?_⟩
      rintro ⟨content, same, -⟩
      exact other (List.cons.inj same).1

theorem Reaches.of_step (known : advance? (c :: cs) = some (next, 0))
    (reached : Reaches (c :: cs) (d :: rest) depth) : d = c ∨ Reaches next (d :: rest) depth := by
  cases reached with
  | here => exact .inl rfl
  | step first more =>
    cases known.symm.trans first
    rw [Int.zero_add]
    exact .inr more

theorem advance?_plain (plain : isQuote c = false ∧ c ≠ '(' ∧ c ≠ ')') (cs : List Char) :
    advance? (c :: cs) = some (cs, 0) := by
  simp [advance?, plain]

def isOrdinary (c : Char) : Bool := isWordChar c || c == '.' || isQuote c || c == '('

theorem isOrdinary_of_isLink (link : IsLink cs) (ends : ∀ d ∈ tail.head?, isQuote d = false)
    (reached : Reaches (cs ++ tail) (c :: rest) depth) :
    isOrdinary c = true ∨ Reaches tail (c :: rest) depth := by
  cases link with
  | word filled all =>
    clear filled
    induction cs with
    | nil => exact .inr reached
    | cons d run ih =>
      have first := all d List.mem_cons_self
      rcases reached.of_step (advance?_plain (plain_of_isWordChar first) _) with rfl | more
      · exact .inl (by simp [isOrdinary, first])
      · exact ih more fun e member => all e (List.mem_cons_of_mem d member)
  | @quoted q content quote =>
    rw [List.cons_append, List.append_assoc] at reached
    have apart : tail.head? ≠ some q := fun same => ne_of_isQuote (ends q same) quote rfl
    rcases reached.of_step (advance?_quoted quote apart content) with rfl | more
    · exact .inl (by simp [isOrdinary, quote])
    · exact .inr more

theorem isOrdinary_of_encloses (encloses : Encloses cs content)
    (reached : Reaches cs (c :: rest) 0) : isOrdinary c = true := by
  obtain ⟨rfl, -⟩ := id encloses
  by_cases first : c :: rest = '(' :: (content ++ [')'])
  · cases first
    rfl
  · obtain ⟨_, _, reads, late⟩ := readGroup_of_reaches reached first
    rw [encloses_iff.1 encloses] at reads
    cases reads
    cases late

theorem isOrdinary_of_isLinked (linked : IsLinked cs) (reached : Reaches cs (c :: rest) 0) :
    isOrdinary c = true := by
  induction linked with
  | @last cs link =>
    rw [← List.append_nil cs] at reached
    rcases isOrdinary_of_isLink link (by simp) reached with ordinary | more
    · exact ordinary
    · exact absurd more.isSuffix (by simp)
  | call link encloses =>
    obtain ⟨rfl, -⟩ := id encloses
    rcases isOrdinary_of_isLink link (by simp; rfl) reached with ordinary | more
    · exact ordinary
    · exact isOrdinary_of_encloses encloses more
  | next link _ ih =>
    rcases isOrdinary_of_isLink link (by simp; rfl) reached with ordinary | more
    · exact ordinary
    · rcases more.of_step (advance?_plain (by decide) _) with rfl | more
      · rfl
      · exact ih more

/-- The sign of a power of ten. -/
def IsPowerSign (cs : List Char) (c : Char) : Prop :=
  ∃ mantissa letter digits, cs = mantissa ++ letter :: c :: digits ∧ IsMantissa mantissa ∧
    (letter = 'e' ∨ letter = 'E')

theorem isOrdinary_of_digit {c : Char} (digit : (c.isDigit || c == '.') = true) :
    isOrdinary c = true := by
  rcases Bool.or_eq_true_iff.1 digit with digit | point
  · simp [isOrdinary, isWordChar, Char.isAlphanum, digit]
  · simp [isOrdinary, point]

theorem isOrdinary_of_isUnsigned (unsigned : IsUnsigned cs) (member : c ∈ cs) :
    isOrdinary c = true ∨ IsPowerSign cs c := by
  obtain ⟨mantissa, power, rfl, isMantissa, isPower⟩ := unsigned
  rcases List.mem_append.1 member with first | last
  · exact .inl (isOrdinary_of_digit (isMantissa.chars c first))
  · rcases isPower with rfl | ⟨letter, sign, digits, rfl, isLetter, isSign, -, all⟩
    · cases last
    · rcases List.mem_cons.1 last with rfl | later
      · rcases isLetter with rfl | rfl <;> exact .inl rfl
      · rcases List.mem_append.1 later with isSigned | isDigit
        · have only : sign = [c] := by
            rcases isSign with rfl | rfl | rfl
            · cases isSigned
            · rw [List.mem_singleton.1 isSigned]
            · rw [List.mem_singleton.1 isSigned]
          exact .inr ⟨mantissa, letter, digits, by rw [only]; rfl, isMantissa, isLetter⟩
        · exact .inl (isOrdinary_of_digit (by rw [all c isDigit]; rfl))

/--
A text is an operand as it stands exactly if it is a group in brackets, a number without a sign, or
a chain of words and quoted tokens, perhaps with a group behind it. So it does not start with a
sign, and outside quotes and brackets it has letters, digits, underscores and points only, but for
the sign of a power of ten.
-/
theorem operands_accepted (sql : String) :
    (isAtomic sql = true ↔ (∃ content, Encloses (trim sql.toList) content) ∨
      IsUnsigned (trim sql.toList) ∨ IsLinked (trim sql.toList)) ∧
    (isAtomic sql = true →
      (∀ c ∈ (trim sql.toList).head?, c ≠ '-' ∧ c ≠ '+') ∧
      ∀ c rest, Reaches (trim sql.toList) (c :: rest) 0 →
        isOrdinary c = true ∨ IsPowerSign (trim sql.toList) c) := by
  have shape := isAtomic_iff sql
  refine ⟨shape, fun atomic => ?_⟩
  rw [shape] at atomic
  generalize trim sql.toList = cs at atomic
  have plain : ∀ c rest, Reaches cs (c :: rest) 0 → isOrdinary c = true ∨ IsPowerSign cs c := by
    intro c rest reached
    rcases atomic with ⟨content, encloses⟩ | unsigned | linked
    · exact .inl (isOrdinary_of_encloses encloses reached)
    · exact isOrdinary_of_isUnsigned unsigned (reached.isSuffix.subset List.mem_cons_self)
    · exact .inl (isOrdinary_of_isLinked linked reached)
  refine ⟨?_, plain⟩
  intro c first
  obtain ⟨rest, rfl⟩ := List.head?_eq_some_iff.1 first
  have begins : isOrdinary c = true := by
    rcases atomic with ⟨content, encloses⟩ | unsigned | linked
    · exact isOrdinary_of_encloses encloses .here
    · exact isOrdinary_of_digit (head_of_isUnsigned unsigned)
    · exact isOrdinary_of_isLinked linked .here
  constructor <;> rintro rfl <;> exact absurd begins (by decide)

/-- A call of a qualified name, with an operator inside its brackets and quotes alone. -/
theorem operands_accepted_call :
    isAtomic " \"t\".f('-' - (a)) " = true ∧
      (∀ c ∈ (trim " \"t\".f('-' - (a)) ".toList).head?, c ≠ '-' ∧ c ≠ '+') ∧
      ∀ c rest, Reaches (trim " \"t\".f('-' - (a)) ".toList) (c :: rest) 0 →
        isOrdinary c = true ∨ IsPowerSign (trim " \"t\".f('-' - (a)) ".toList) c := by
  have atomic : isAtomic " \"t\".f('-' - (a)) " = true := by rfl
  exact ⟨atomic, (operands_accepted _).2 atomic⟩

end SheetSql
