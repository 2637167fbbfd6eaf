import Mathlib.Data.List.DropRight
import SheetSql.Proofs.Lexical.Outside
import SheetSql.Sql.Printer

namespace SheetSql

/-! Texts as operands. -/

open Text Sql

/-- Whether all quotes and brackets of a text are closed, and no bracket closes that is not open. -/
def isBalanced (sql : String) : Bool :=
  match outside? isQuote none sql.toList with
  | some found => depthAfter 0 found == some 0
  | none => false

theorem trim_of_ends (first : isBlank c = false) (last : isBlank d = false) :
    trim (c :: cs ++ [d]) = c :: cs ++ [d] := by
  have started : trimStart (c :: cs ++ [d]) = c :: cs ++ [d] := by
    rw [trimStart, List.cons_append, List.dropWhile_cons, first]
    rfl
  rw [trim, started]
  exact List.rdropWhile_concat_neg isBlank _ d (by rw [last]; exact Bool.false_ne_true)

theorem trim_trim (cs : List Char) : trim (trim cs) = trim cs := by
  have head : ∀ c, (trim cs).head? = some c → isBlank c = false := by
    intro c starts
    have kept : (trimStart cs).head? = some c := by
      obtain ⟨more, split⟩ := List.rdropWhile_prefix isBlank (trimStart cs)
      change trim cs ++ more = _ at split
      rw [← split, List.head?_append, starts]
      rfl
    have plain := List.head?_dropWhile_not isBlank cs
    rw [show cs.dropWhile isBlank = trimStart cs from rfl, kept] at plain
    exact plain
  have started : trimStart (trim cs) = trim cs := by
    cases split : trim cs with
    | nil => rfl
    | cons c rest =>
      rw [trimStart, List.dropWhile_cons, head c (by rw [split]; rfl)]
      rfl
  rw [trim, started]
  exact List.rdropWhile_idempotent isBlank (trimStart cs)

theorem peel_eq {cs : List Char} (enough : cs.length ≤ m) (more : cs.length ≤ n) :
    peel m cs = peel n cs := by
  induction m generalizing n cs with
  | zero =>
    rw [List.length_eq_zero_iff.1 (Nat.le_zero.1 enough)]
    cases n <;> rfl
  | succ m ih =>
    cases found : inside? cs with
    | none => cases n <;> simp [peel, found]
    | some content =>
      have shorter := length_of_inside? found
      cases n with
      | zero => omega
      | succ n =>
        rw [peel, peel, found]
        exact ih (by omega) (by omega)

theorem bare_eq_peel (cs : List Char) : bare cs = peel (trim cs).length (trim cs) :=
  peel_eq (length_trim_le cs) (Nat.le_refl _)

theorem depthAfter_of_isQuote (quote : isQuote c = true) (depth : Nat) (cs : List Char) :
    depthAfter depth (c :: cs) = depthAfter depth cs := by
  have apart : c ≠ '(' ∧ c ≠ ')' := by
    constructor <;> rintro rfl <;> exact absurd quote (by decide)
  rw [depthAfter.eq_def]
  dsimp only
  rw [if_neg apart.1, if_neg apart.2]

theorem readGroup_append (known : ∀ q, quoted = some q → isQuote q = true)
    (closed : outside? isQuote quoted cs = some found) (level : depthAfter depth found = some 0)
    (rest : List Char) : readGroup quoted depth (cs ++ ')' :: rest) = some (cs, rest) := by
  induction cs generalizing quoted depth found with
  | nil =>
    cases quoted with
    | some q => cases closed
    | none =>
      cases closed
      cases level
      rfl
  | cons c cs ih =>
    rw [List.cons_append, readGroup.eq_def]
    dsimp only
    cases quoted with
    | some q =>
      have quote := known q rfl
      rw [outside?] at closed
      dsimp only
      split at closed
      · next same =>
          subst same
          obtain ⟨after, inner, rfl⟩ := Option.map_eq_some_iff.1 closed
          rw [depthAfter_of_isQuote quote] at level
          rw [if_pos rfl, ih (by simp) inner level]
          rfl
      · next differ =>
          rw [if_neg differ, ih known closed level]
          rfl
    | none =>
      rw [outside?, Option.map_eq_some_iff] at closed
      obtain ⟨after, inner, rfl⟩ := closed
      dsimp only
      by_cases quote : isQuote c = true
      · rw [if_pos quote] at inner
        rw [depthAfter_of_isQuote quote] at level
        rw [if_pos quote, ih (by simpa using quote) inner level]
        rfl
      · rw [if_neg quote] at inner
        rw [if_neg quote]
        rw [depthAfter.eq_def] at level
        dsimp only at level
        split at level
        · next opening =>
            rw [if_pos opening, ih (by simp) inner level]
            rfl
        · next other =>
            rw [if_neg other]
            split at level
            · next closing =>
                cases depth with
                | zero => cases level
                | succ depth =>
                  rw [if_pos closing]
                  dsimp only
                  rw [ih (by simp) inner level]
                  rfl
            · next apart =>
                rw [if_neg apart, ih (by simp) inner level]
                rfl

theorem isBalanced_trimmed (balanced : isBalanced sql = true) :
    ∃ found, outside? isQuote none (trim sql.toList) = some found ∧
      depthAfter 0 found = some 0 := by
  refine trim_kept (p := fun cs => ∃ found, outside? isQuote none cs = some found ∧
    depthAfter 0 found = some 0) ?_ ?_ ?_
  · rintro c cs blank ⟨found, closed, level⟩
    obtain ⟨rest, -, inner⟩ :=
      outside?_of_blank_cons blank (plain_of_isBlank blank).1 level closed
    exact ⟨rest, inner⟩
  · rintro c cs blank ⟨found, closed, level⟩
    obtain ⟨rest, -, inner⟩ :=
      outside?_of_concat_blank blank (plain_of_isBlank blank).1 level closed
    exact ⟨rest, inner⟩
  · unfold isBalanced at balanced
    split at balanced
    · exact ⟨_, ‹_›, by simpa using balanced⟩
    · cases balanced

theorem toList_printFragment (sql : String) :
    (printFragment sql).toList = if isAtomic sql then trim sql.toList
      else '(' :: trim sql.toList ++ [')'] := by
  unfold printFragment
  split <;> simp [trimmed]

theorem trim_printFragment (sql : String) :
    trim (printFragment sql).toList = (printFragment sql).toList := by
  rw [toList_printFragment]
  split
  · exact trim_trim sql.toList
  · exact trim_of_ends (by decide) (by decide)

theorem trim_printFragment_ne {sql : String} (filled : trim sql.toList ≠ []) :
    trim (printFragment sql).toList ≠ [] := by
  rw [trim_printFragment, toList_printFragment]
  split
  · exact filled
  · exact List.cons_ne_nil _ _

theorem readGroup_trimmed (balanced : isBalanced sql = true) :
    readGroup none 0 (trim sql.toList ++ [')']) = some (trim sql.toList, []) := by
  obtain ⟨found, closed, level⟩ := isBalanced_trimmed balanced
  exact readGroup_append (by simp) closed level []

theorem isAtomic_congr {sql sql' : String} (same : trim sql.toList = trim sql'.toList) :
    isAtomic sql = isAtomic sql' := by
  unfold isAtomic
  rw [same]

theorem isAtomic_printFragment (balanced : isBalanced sql = true) :
    isAtomic (printFragment sql) = true := by
  by_cases atomic : isAtomic sql = true
  · have kept : trim (printFragment sql).toList = trim sql.toList := by
      rw [trim_printFragment, toList_printFragment, if_pos atomic]
    rw [isAtomic_congr kept, atomic]
  · rw [isAtomic, trim_printFragment, toList_printFragment, if_neg atomic]
    change closesAtEnd (trim sql.toList ++ [')']) = true
    rw [closesAtEnd, readGroup_trimmed balanced]

theorem printFragment_printFragment (balanced : isBalanced sql = true) :
    printFragment (printFragment sql) = printFragment sql := by
  rw [← String.toList_inj, toList_printFragment, if_pos (isAtomic_printFragment balanced)]
  exact trim_printFragment sql

theorem bare_printFragment (balanced : isBalanced sql = true) :
    bare (printFragment sql).toList = bare sql.toList := by
  rw [bare_eq_peel, bare_eq_peel, trim_printFragment, toList_printFragment]
  split
  · rfl
  · have inner : inside? ('(' :: trim sql.toList ++ [')']) = some (trim sql.toList) := by
      rw [List.cons_append, inside?, readGroup_trimmed balanced]
      exact congrArg some (trim_trim sql.toList)
    rw [List.length_append, List.length_singleton, peel, inner]
    exact peel_eq (by simp) (Nat.le_refl _)

end SheetSql
