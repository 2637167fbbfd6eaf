import SheetSql.Sql.Printer

namespace SheetSql.Reading

open Text Sql

/-!
The pieces of printed expressions read from the front of a text: fixed texts, one of several fixed
texts of which none begins another, words and quoted texts.
-/

def after? (lead : String) (cs : List Char) : Option (List Char) :=
  rest? (· == ·) lead.toList cs

theorem rest?_eq_some_iff : rest? (· == ·) lead cs = some rest ↔ cs = lead ++ rest := by
  induction lead generalizing cs with
  | nil => simp [rest?]
  | cons p lead ih =>
    cases cs with
    | nil => simp [rest?]
    | cons c cs =>
      rw [rest?]
      by_cases same : p = c
      · subst same
        simp [ih]
      · simp [same, Ne.symm same]

theorem after?_eq_some_iff : after? lead cs = some rest ↔ cs = lead.toList ++ rest :=
  rest?_eq_some_iff

@[simp] theorem after?_append (lead : String) (rest : List Char) :
    after? lead (lead.toList ++ rest) = some rest :=
  after?_eq_some_iff.2 rfl

theorem after?_eq_none {lead : String} (starts : lead.toList.head? = some p) (differ : c ≠ p) :
    after? lead (c :: cs) = none := by
  obtain ⟨more, split⟩ := List.head?_eq_some_iff.1 starts
  rw [Option.eq_none_iff_forall_not_mem]
  intro rest found
  rw [after?, Option.mem_def, rest?_eq_some_iff, split, List.cons_append] at found
  exact differ (List.cons.inj found).1

section

variable {α : Type} {table : List α} {text : α → String}

def firstOf? (table : List α) (text : α → String) (cs : List Char) : Option (α × List Char) :=
  table.findSome? fun a => (after? (text a) cs).map (a, ·)

def isPrefixFree [DecidableEq α] (table : List α) (text : α → String) : Bool :=
  table.all fun a => table.all fun b => a = b || !(text a).toList.isPrefixOf (text b).toList

theorem after?_eq_none_of_isPrefixFree [DecidableEq α] (free : isPrefixFree table text = true)
    (one : a ∈ table) (other : b ∈ table) (differ : a ≠ b) (rest : List Char) :
    after? (text a) ((text b).toList ++ rest) = none := by
  have apart : ∀ {a b : α}, a ∈ table → b ∈ table → a ≠ b →
      ¬(text a).toList <+: (text b).toList := by
    intro a b one other differ starts
    have check := List.all_eq_true.1 (List.all_eq_true.1 free a one) b other
    simp [differ, List.isPrefixOf_iff_prefix.2 starts] at check
  rw [Option.eq_none_iff_forall_not_mem]
  intro found member
  rw [Option.mem_def, after?_eq_some_iff] at member
  have first : (text a).toList <+: (text b).toList ++ rest := ⟨found, member.symm⟩
  rcases List.prefix_or_prefix_of_prefix first (List.prefix_append _ rest) with starts | starts
  · exact apart one other differ starts
  · exact apart other one (Ne.symm differ) starts

theorem findSome?_eq_of_unique {β : Type} {f : α → Option β} {list : List α} {a : α} {b : β}
    (member : a ∈ list) (here : f a = some b) (elsewhere : ∀ c ∈ list, c ≠ a → f c = none) :
    list.findSome? f = some b := by
  classical
  induction list with
  | nil => cases member
  | cons c list ih =>
    rw [List.findSome?_cons]
    by_cases same : c = a
    · rw [same, here]
    · rw [elsewhere c (by simp) same]
      have later : a ∈ list := by
        rcases List.mem_cons.1 member with rfl | later
        · exact absurd rfl same
        · exact later
      exact ih later fun d among => elsewhere d (by simp [among])

theorem firstOf?_append [DecidableEq α] (free : isPrefixFree table text = true) {a : α}
    (member : a ∈ table) (rest : List Char) :
    firstOf? table text ((text a).toList ++ rest) = some (a, rest) := by
  refine findSome?_eq_of_unique member (by simp) fun b other differ => ?_
  rw [after?_eq_none_of_isPrefixFree free other member differ]
  rfl

end

def wordOf (cs : List Char) : List Char := cs.takeWhile isWordChar

def afterWord (cs : List Char) : List Char := cs.dropWhile isWordChar

def bareWord (cs : List Char) : List Char :=
  match afterWord cs with
  | '(' :: _ => []
  | _ => wordOf cs

def isWord (name : String) : Bool := !name.toList.isEmpty && name.toList.all isWordChar

def endsWord (cs : List Char) : Bool := cs.head?.all fun c => !isWordChar c

section

variable {word rest : List Char} (all : ∀ c ∈ word, isWordChar c = true)
  (ends : endsWord rest = true)

include all ends

theorem wordOf_append : wordOf (word ++ rest) = word := by
  rw [wordOf, List.takeWhile_append_of_pos all]
  cases rest with
  | nil => simp
  | cons c rest =>
    have stop : isWordChar c = false := by simpa [endsWord] using ends
    simp [stop]

theorem afterWord_append : afterWord (word ++ rest) = rest := by
  rw [afterWord, List.dropWhile_append_of_pos all]
  cases rest with
  | nil => rfl
  | cons c rest =>
    have stop : isWordChar c = false := by simpa [endsWord] using ends
    simp [stop]

theorem bareWord_append (bare : rest.head? ≠ some '(') : bareWord (word ++ rest) = word := by
  unfold bareWord
  rw [afterWord_append all ends, wordOf_append all ends]
  split
  · simp at bare
  · rfl

end

theorem enclose_append (q : Char) (s : String) (rest : List Char) :
    (enclose q s).toList ++ rest = q :: (double q s.toList ++ q :: rest) := by
  simp [enclose]

theorem readName_append (name : String) {rest : List Char}
    (ends : rest.head? ≠ some doubleQuote) :
    readName ((quoteName name).toList ++ rest) = some (name, rest) := by
  rw [quoteName, enclose_append, readName, if_pos (.inl rfl), readQuoted_double ends]
  simp

end SheetSql.Reading
