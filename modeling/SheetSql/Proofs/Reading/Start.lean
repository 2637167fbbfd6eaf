import SheetSql.Proofs.Reading.Reader

namespace SheetSql.Reading

/-! How printed expressions start. -/

open Text Sql

mutual

/--
Expressions without SQL text from elsewhere, queries and typed constants. The two words that are
printed with a bracket of their own are no functions, and two operands are no chain.
-/
def isReadable : Expr → Bool
  | .null | .bool _ | .text _ | .column _ _ => true
  | .typed _ _ | .fragment _ | .aggregate _ _ _ | .window _ _ _ _ | .subquery _ => false
  | .number digits => isUnsigned digits
  | .call function args =>
    isWord function && function != "CAST" && function != "EXTRACT" && allReadable args
  | .chain _ items => 3 ≤ items.length && allReadable items
  | .member operand list _ => isReadable operand && allReadable list
  | .unary _ operand | .nullTest operand _ | .cast operand _ => isReadable operand
  | .extract field operand => isWord field && isReadable operand
  | .binary one _ other | .atTimeZone one other | .subscript one other =>
    isReadable one && isReadable other
  | .case subject branches otherwise =>
    optionReadable subject && branchesReadable branches && optionReadable otherwise
  | .slice array lower upper =>
    isReadable array && optionReadable lower && optionReadable upper

def allReadable : List Expr → Bool
  | [] => true
  | e :: rest => isReadable e && allReadable rest

def optionReadable : Option Expr → Bool
  | none => true
  | some e => isReadable e

def branchesReadable : List Branch → Bool
  | [] => true
  | ⟨condition, value⟩ :: rest =>
    isReadable condition && isReadable value && branchesReadable rest

end

def isBreakChar (c : Char) : Bool := !isWordChar c && !isQuote c && c != '.' && c != '('

def isBreak (cs : List Char) : Bool := cs.head?.all isBreakChar

theorem head?_ne_of_isBreak (ends : isBreak cs = true) (inner : isBreakChar c = false) :
    cs.head? ≠ some c := by
  intro starts
  rw [isBreak, starts, Option.all_some, inner] at ends
  exact Bool.noConfusion ends

theorem endsWord_of_isBreak (ends : isBreak cs = true) : endsWord cs = true := by
  cases cs with
  | nil => rfl
  | cons c cs =>
    simp only [isBreak, isBreakChar, List.head?_cons, Option.all_some, Bool.and_eq_true] at ends
    exact ends.1.1.1

theorem isBreak_append (first : isBreak cs = true) (second : isBreak rest = true) :
    isBreak (cs ++ rest) = true := by
  cases cs with
  | nil => exact second
  | cons c cs => exact first

theorem isBreak_printBranches (branches : List Branch) :
    isBreak (printBranches .postgres branches).toList = true := by
  cases branches with
  | nil => rfl
  | cons branch branches =>
    cases branch
    simp only [printBranches, String.toList_append, List.append_assoc]
    rfl

theorem isBreak_printElse (otherwise : Option Expr) :
    isBreak (printOptional .postgres " ELSE " otherwise).toList = true := by
  cases otherwise with
  | none => rfl
  | some e =>
    rw [printOptional, String.toList_append]
    rfl

theorem isDigits_iff : isDigits cs = true ↔ cs ≠ [] ∧ ∀ c ∈ cs, c.isDigit = true := by
  simp [isDigits]

theorem isWordChar_of_isDigit {c : Char} (digit : c.isDigit = true) : isWordChar c = true := by
  simp [isWordChar, Char.isAlphanum, digit]

theorem isUnsigned_split (unsigned : isUnsigned digits = true) :
    ∃ whole, isDigits whole = true ∧ (digits.toList = whole ∨
      ∃ fraction, isDigits fraction = true ∧ digits.toList = whole ++ '.' :: fraction) := by
  rw [isUnsigned, Bool.and_eq_true] at unsigned
  refine ⟨_, unsigned.1, ?_⟩
  have split := List.takeWhile_append_dropWhile (p := Char.isDigit) (l := digits.toList)
  have fraction := unsigned.2
  cases tail : digits.toList.dropWhile Char.isDigit with
  | nil =>
    left
    rw [tail, List.append_nil] at split
    exact split.symm
  | cons c cs =>
    right
    rw [tail] at fraction split
    split at fraction
    · contradiction
    · next same =>
        cases same
        exact ⟨_, fraction, split.symm⟩
    · contradiction

theorem isUnsigned_head (unsigned : isUnsigned digits = true) :
    ∃ c, digits.toList.head? = some c ∧ c.isDigit = true := by
  obtain ⟨whole, all, split⟩ := isUnsigned_split unsigned
  obtain ⟨filled, digit⟩ := isDigits_iff.1 all
  cases whole with
  | nil => exact absurd rfl filled
  | cons c whole =>
    refine ⟨c, ?_, digit c (by simp)⟩
    rcases split with split | ⟨fraction, -, split⟩ <;> rw [split] <;> rfl

theorem printNumber_of_isUnsigned (unsigned : isUnsigned digits = true) :
    printNumber digits = digits := by
  obtain ⟨c, starts, digit⟩ := isUnsigned_head unsigned
  unfold printNumber
  split
  · next minus =>
      rw [minus] at starts
      cases starts
      exact absurd digit (by decide)
  · rfl

theorem isWord_iff :
    isWord name = true ↔ name.toList ≠ [] ∧ ∀ c ∈ name.toList, isWordChar c = true := by
  simp [isWord]

theorem isBreakChar_of_isWordChar (word : isWordChar c = true) : isBreakChar c = false := by
  simp [isBreakChar, word]

/-- The words that stand alone before an operand, or where one could stand. -/
def isReserved (word : List Char) : Bool := String.ofList word ∈ "NOT" :: clauseWords

inductive Starts : List Char → Prop
  | mark {c : Char} (cs : List Char) (stop : isWordChar c = false)
      (inner : isBreakChar c = false) : Starts (c :: cs)
  | digit {c : Char} (cs : List Char) (digit : c.isDigit = true) : Starts (c :: cs)
  | applied (name : String) (word : isWord name = true) (cs : List Char) :
      Starts (name.toList ++ '(' :: cs)
  | bare (name : String) (word : isWord name = true) (free : isReserved name.toList = false)
      (cs : List Char) (ends : isBreak cs = true) : Starts (name.toList ++ cs)

theorem Starts.bracket (s : String) : Starts ("(" ++ s).toList := by
  rw [String.toList_append]
  exact .mark _ (by decide) (by decide)

theorem print_starts (readable : isReadable e = true) : Starts (e.print .postgres).toList := by
  cases e with
  | null => exact .bare "NULL" (by decide) (by decide) [] rfl
  | bool value =>
    cases value with
    | true => exact .bare "TRUE" (by decide) (by decide) [] rfl
    | false => exact .bare "FALSE" (by decide) (by decide) [] rfl
  | number digits =>
    rw [isReadable] at readable
    obtain ⟨c, starts, digit⟩ := isUnsigned_head readable
    obtain ⟨cs, split⟩ := List.head?_eq_some_iff.1 starts
    rw [Expr.print, printNumber_of_isUnsigned readable, split]
    exact .digit cs digit
  | text content =>
    rw [Expr.print, quoteText, enclose, String.toList_ofList]
    exact .mark _ (by decide) (by decide)
  | column qualifier name =>
    cases qualifier <;>
      simp only [Expr.print, printColumn, quoteName, enclose, String.toList_append,
        String.toList_ofList] <;>
      exact .mark _ (by decide) (by decide)
  | call function args =>
    simp only [isReadable, Bool.and_eq_true] at readable
    simp only [Expr.print, String.toList_append, List.append_assoc]
    exact .applied function readable.1.1.1 _
  | cast operand type =>
    simp only [Expr.print, String.toList_append, List.append_assoc]
    exact .applied "CAST" (by decide) _
  | extract field operand =>
    simp only [Expr.print, String.toList_append, List.append_assoc]
    exact .applied "EXTRACT" (by decide) _
  | case subject branches otherwise =>
    simp only [Expr.print, String.toList_append, List.append_assoc]
    refine .bare "CASE" (by decide) (by decide) _ (isBreak_append ?_ (isBreak_append
      (isBreak_printBranches branches) (isBreak_append (isBreak_printElse otherwise) rfl)))
    cases subject with
    | none => rfl
    | some e =>
      rw [printOptional, String.toList_append]
      rfl
  | binary left op right | chain op items | unary op operand | nullTest operand negated
  | member operand list negated | atTimeZone operand zone | subscript array index
  | slice array lower upper =>
    simp only [Expr.print, String.append_assoc]
    exact .bracket _
  | typed type content | fragment sql | aggregate function args order
  | window function args part order | subquery query => simp [isReadable] at readable

theorem isReserved_of_isDigit {word : List Char} (starts : word.head? = some c)
    (digit : c.isDigit = true) : isReserved word = false := by
  have letter : ∀ reserved ∈ "NOT" :: clauseWords,
      reserved.toList.head?.any Char.isDigit = false := by decide
  rw [isReserved, decide_eq_false_iff_not]
  intro member
  have wrong := letter _ member
  rw [String.toList_ofList, starts, Option.any_some, digit] at wrong
  exact Bool.noConfusion wrong

namespace Starts

variable {s : List Char}

theorem head (starts : Starts s) : ∃ c cs, s = c :: cs ∧ isBreakChar c = false := by
  cases starts with
  | mark cs stop inner => exact ⟨_, cs, rfl, inner⟩
  | digit cs digit =>
    exact ⟨_, cs, rfl, isBreakChar_of_isWordChar (isWordChar_of_isDigit digit)⟩
  | applied name word cs | bare name word free cs ends =>
    obtain ⟨filled, all⟩ := isWord_iff.1 word
    obtain ⟨c, more, split⟩ := List.exists_cons_of_ne_nil filled
    rw [split, List.cons_append]
    exact ⟨c, _, rfl, isBreakChar_of_isWordChar (all c (by simp [split]))⟩

theorem after?_eq_none (starts : Starts s) {lead : String} (first : lead.toList.head? = some p)
    (outer : isBreakChar p = true) (rest : List Char) : after? lead (s ++ rest) = none := by
  obtain ⟨c, cs, rfl, inner⟩ := starts.head
  apply Reading.after?_eq_none first
  rintro rfl
  rw [inner] at outer
  exact Bool.noConfusion outer

theorem isReserved_bareWord (starts : Starts s) (ends : isBreak rest = true) :
    isReserved (bareWord (s ++ rest)) = false := by
  cases starts with
  | mark cs stop inner =>
    rw [List.cons_append, bareWord, wordOf, List.takeWhile_cons, stop]
    split <;> rfl
  | @digit c cs digit =>
    rw [List.cons_append, bareWord, wordOf, List.takeWhile_cons, isWordChar_of_isDigit digit]
    split
    · rfl
    · exact isReserved_of_isDigit rfl digit
  | applied name word cs =>
    rw [List.append_assoc, List.cons_append, bareWord,
      afterWord_append (isWord_iff.1 word).2 rfl]
    rfl
  | bare name word free cs before =>
    have apart : isBreak (cs ++ rest) = true := isBreak_append before ends
    rw [List.append_assoc, bareWord_append (isWord_iff.1 word).2 (endsWord_of_isBreak apart)
      (head?_ne_of_isBreak apart rfl)]
    exact free

end Starts

theorem print_length_pos (readable : isReadable e = true) :
    0 < (e.print .postgres).toList.length := by
  obtain ⟨c, cs, split, -⟩ := (print_starts readable).head
  simp [split]

theorem count_le_joined (separator : String) (readable : ∀ e ∈ items, isReadable e = true) :
    items.length ≤ (joined separator (printEach .postgres items)).toList.length := by
  induction items with
  | nil => exact Nat.zero_le _
  | cons item items ih =>
    have first := print_length_pos (readable item (by simp))
    have later := ih fun e member => readable e (by simp [member])
    cases items with
    | nil =>
      rw [printEach, printEach, joined_singleton]
      exact first
    | cons next items =>
      rw [printEach, printEach, joined_cons_cons, ← printEach]
      simp only [String.toList_append, List.length_append, List.length_cons] at later ⊢
      omega

theorem count_le_printBranches (branches : List Branch) :
    branches.length ≤ (printBranches .postgres branches).toList.length := by
  induction branches with
  | nil => exact Nat.zero_le _
  | cons branch branches ih =>
    cases branch
    simp [printBranches]
    omega

end SheetSql.Reading
