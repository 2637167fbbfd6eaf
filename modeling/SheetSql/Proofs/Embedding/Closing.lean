import Mathlib.Order.Bounds.Basic
import SheetSql.Proofs.Embedding.Bracket

namespace SheetSql

/-! Which bracket closes another, and the brackets around a text. -/

open Text Sql

/--
What is left after the first character of a text, or after the quoted section at its start, and by
how much the brackets there change the depth. Nothing can be read where the text ends or where a
quoted section does not end.
-/
def advance? : List Char → Option (List Char × Int)
  | [] => none
  | c :: cs =>
    if isQuote c then (readQuoted c cs).map fun found => (found.2, 0)
    else some (cs, if c = '(' then 1 else if c = ')' then -1 else 0)

/-- A reader of a text comes to where `rest` is left, and the depth has changed by `depth`. -/
inductive Reaches : List Char → List Char → Int → Prop
  | here : Reaches cs cs 0
  | step (first : advance? cs = some (next, change)) (more : Reaches next rest depth) :
      Reaches cs rest (change + depth)

theorem Reaches.opening (more : Reaches cs rest depth) : Reaches ('(' :: cs) rest (1 + depth) :=
  more.step rfl

theorem advance?_quoted (quote : isQuote q = true) (ends : cs.head? ≠ some q)
    (content : List Char) : advance? (q :: (double q content ++ q :: cs)) = some (cs, 0) := by
  rw [advance?, if_pos quote, readQuoted_double ends]
  rfl

theorem readGroup_of_isQuote (quote : isQuote c = true) (depth : Nat) (cs : List Char) :
    readGroup none depth (c :: cs) =
      (readGroup (some c) depth cs).map fun parts => (c :: parts.1, parts.2) :=
  if_pos quote

/-- A quoted section is passed over as a whole. -/
theorem readGroup_quoted (quote : isQuote q = true) (depth : Nat) (cs : List Char) :
    readGroup (some q) depth cs = (readQuoted q cs).bind fun found =>
      (readGroup none depth found.2).map fun parts =>
        (double q found.1 ++ q :: parts.1, parts.2) := by
  fun_induction readQuoted q cs with
  | case1 => rfl
  | case2 => simp [readGroup]
  | case3 => simp [readGroup, *]
  | case4 rest ih =>
    rw [readGroup, if_pos rfl, readGroup_of_isQuote quote, ih]
    cases readQuoted q rest with
    | none => rfl
    | some found => simp [double, Function.comp_def]
  | case5 d rest other =>
    rw [readGroup, if_pos rfl]
    rfl
  | case6 c d rest other ih =>
    rw [readGroup, if_neg other, ih]
    cases readQuoted q (d :: rest) with
    | none => rfl
    | some found => simp [double, other, Function.comp_def]

theorem readGroup_of_end (ends : advance? cs = none) (depth : Nat) :
    readGroup none depth cs = none := by
  cases cs with
  | nil => rfl
  | cons c cs =>
    rw [advance?] at ends
    split at ends
    · next quote =>
        rw [readGroup_of_isQuote quote, readGroup_quoted quote, Option.map_eq_none_iff.1 ends]
        rfl
    · cases ends

/-- A step ends the group, or the group goes on after it at the depth that it leads to. -/
theorem readGroup_step (first : advance? cs = some (next, change)) (depth : Nat) :
    ∃ taken, taken ≠ [] ∧ cs = taken ++ next ∧
      (depth + change = -1 ∧ taken = [')'] ∧ readGroup none depth cs = some ([], next) ∨
      ∃ deeper : Nat, deeper = depth + change ∧ readGroup none depth cs =
        (readGroup none deeper next).map fun parts => (taken ++ parts.1, parts.2)) := by
  cases cs with
  | nil => cases first
  | cons c cs =>
    rw [advance?] at first
    split at first
    · next quote =>
        obtain ⟨found, read, same⟩ := Option.map_eq_some_iff.1 first
        cases same
        obtain ⟨rfl, ends⟩ := readQuoted_eq_some_iff.1 read
        refine ⟨c :: (double c found.1 ++ [c]), by simp, by simp, .inr ⟨depth, by simp, ?_⟩⟩
        rw [readGroup_of_isQuote quote, readGroup_quoted quote, read]
        simp [Function.comp_def]
    · next other =>
        cases first
        refine ⟨[c], by simp, rfl, ?_⟩
        by_cases opens : c = '('
        · subst opens
          exact .inr ⟨depth + 1, rfl, rfl⟩
        · by_cases closes : c = ')'
          · subst closes
            cases depth with
            | zero => exact .inl ⟨rfl, rfl, rfl⟩
            | succ depth => exact .inr ⟨depth, by rw [if_neg opens, if_pos rfl]; omega, rfl⟩
          · refine .inr ⟨depth, by simp [opens, closes], ?_⟩
            rw [readGroup.eq_def]
            simp [other, opens, closes]

theorem Reaches.isSuffix (reached : Reaches cs rest depth) : rest <:+ cs := by
  induction reached with
  | here => exact List.suffix_rfl
  | step first _ ih =>
    obtain ⟨taken, -, rfl, -⟩ := readGroup_step first 0
    exact ih.trans (List.suffix_append taken _)

/-- A group ends with a bracket, and where it ends, the depth is below that of its start. -/
theorem reaches_of_readGroup (reads : readGroup none depth cs = some (content, rest)) :
    cs = content ++ ')' :: rest ∧ Reaches cs rest (-(depth + 1)) := by
  induction size : cs.length using Nat.strong_induction_on generalizing cs depth content with
  | h n ih =>
    cases first : advance? cs with
    | none => cases (readGroup_of_end first depth).symm.trans reads
    | some after =>
      obtain ⟨next, change⟩ := after
      obtain ⟨taken, filled, rfl, ⟨below, rfl, ends⟩ | ⟨deeper, level, goes⟩⟩ :=
        readGroup_step first depth
      · cases ends.symm.trans reads
        have reached := Reaches.here.step first
        rw [show change + 0 = -(depth + 1 : Int) by omega] at reached
        exact ⟨rfl, reached⟩
      · rw [goes] at reads
        obtain ⟨⟨inner, after⟩, found, same⟩ := Option.map_eq_some_iff.1 reads
        cases same
        have shorter := List.length_pos_iff.2 filled
        rw [List.length_append] at size
        obtain ⟨rfl, more⟩ := ih _ (by omega) found rfl
        have reached := more.step first
        rw [show change + -(deeper + 1 : Int) = -(depth + 1) by omega] at reached
        exact ⟨(List.append_assoc ..).symm, reached⟩

/-- Before a group ends, the depth does not go below that of its start. -/
theorem le_of_reaches (reached : Reaches cs left depth) (start : Nat)
    (before : ∀ after ∈ (readGroup none start cs).map Prod.snd, after.length < left.length) :
    -start ≤ depth := by
  induction reached generalizing start with
  | here => omega
  | step first more ih =>
    obtain ⟨taken, -, -, ⟨below, -, ends⟩ | ⟨deeper, level, goes⟩⟩ := readGroup_step first start
    · rw [ends] at before
      exact absurd (before _ rfl) (Nat.not_lt.2 more.isSuffix.length_le)
    · rw [goes, Option.map_map] at before
      have above := ih deeper before
      omega

theorem exists_end (cs : List Char) :
    ∃ rest depth, Reaches cs rest depth ∧ advance? rest = none := by
  induction size : cs.length using Nat.strong_induction_on generalizing cs with
  | h n ih =>
    cases first : advance? cs with
    | none => exact ⟨cs, 0, .here, first⟩
    | some after =>
      obtain ⟨next, change⟩ := after
      obtain ⟨taken, filled, rfl, -⟩ := readGroup_step first 0
      have shorter := List.length_pos_iff.2 filled
      rw [List.length_append] at size
      obtain ⟨rest, depth, reached, ends⟩ := ih _ (by omega) next rfl
      exact ⟨rest, _, reached.step first, ends⟩

theorem readGroup_of_reaches (reached : Reaches ('(' :: cs) left 0) (further : left ≠ '(' :: cs) :
    ∃ content rest, readGroup none 0 cs = some (content, rest) ∧ left.length ≤ rest.length := by
  have inner : Reaches cs left (-1) := by
    generalize depth : (0 : Int) = level at reached
    cases reached with
    | here => exact absurd rfl further
    | @step _ _ _ _ inner first more =>
      cases first
      change (0 : Int) = 1 + inner at depth
      rwa [show inner = -1 by omega] at more
  by_contra early
  have above := le_of_reaches inner 0 ?_
  · omega
  · intro rest found
    obtain ⟨⟨content, rest⟩, reads, rfl⟩ := Option.map_eq_some_iff.1 found
    exact Nat.lt_of_not_le fun late => early ⟨content, rest, reads, late⟩

theorem drop_ne_cons (i : Nat) (c : Char) (cs : List Char) : cs.drop i ≠ c :: cs := by
  intro same
  have shorter := congrArg List.length same
  rw [List.length_drop, List.length_cons] at shorter
  omega

theorem closing?_eq_some_iff (cs : List Char) (i : Nat) :
    closing? ('(' :: cs) = some i ↔
      IsLeast {i | i ≤ cs.length ∧ Reaches ('(' :: cs) (cs.drop i) 0} i := by
  have closes : ∀ content rest, readGroup none 0 cs = some (content, rest) →
      IsLeast {i | i ≤ cs.length ∧ Reaches ('(' :: cs) (cs.drop i) 0} (content.length + 1) := by
    intro content rest reads
    obtain ⟨split, reached⟩ := reaches_of_readGroup reads
    have length := length_of_readGroup reads
    have left : cs.drop (content.length + 1) = rest := by
      rw [split, ← List.singleton_append, ← List.append_assoc]
      exact List.drop_left' (by simp)
    refine ⟨⟨by omega, left ▸ reached.opening⟩, fun i other => ?_⟩
    obtain ⟨content', rest', reads', late⟩ := readGroup_of_reaches other.2 (drop_ne_cons i _ cs)
    cases reads.symm.trans reads'
    rw [List.length_drop] at late
    have inside := other.1
    omega
  rw [closing?, Option.map_eq_some_iff]
  constructor
  · rintro ⟨⟨content, rest⟩, reads, rfl⟩
    exact closes content rest reads
  · intro least
    obtain ⟨content, rest, reads, -⟩ := readGroup_of_reaches least.1.2 (drop_ne_cons i _ cs)
    exact ⟨_, reads, (closes content rest reads).unique least⟩

theorem closing?_eq_none_iff (cs : List Char) :
    closing? ('(' :: cs) = none ↔ ∀ rest, Reaches ('(' :: cs) rest 0 → rest = '(' :: cs := by
  rw [closing?, Option.map_eq_none_iff]
  constructor
  · intro none rest reached
    by_contra further
    obtain ⟨_, _, reads, -⟩ := readGroup_of_reaches reached further
    cases none.symm.trans reads
  · intro never
    cases reads : readGroup none 0 cs with
    | none => rfl
    | some parts =>
      have same := never _ (reaches_of_readGroup reads).2.opening
      have length := length_of_readGroup reads
      rw [same, List.length_cons] at length
      omega

/-- The first bracket of a text is closed by the last, with `content` between them. -/
def Encloses (cs content : List Char) : Prop :=
  cs = '(' :: (content ++ [')']) ∧ closing? cs = some (content.length + 1)

theorem encloses_iff : Encloses ('(' :: cs) content ↔ readGroup none 0 cs = some (content, []) := by
  constructor
  · rintro ⟨same, closes⟩
    cases (List.cons.inj same).2
    obtain ⟨⟨inner, rest⟩, reads, last⟩ := Option.map_eq_some_iff.1 closes
    obtain ⟨rfl, rest⟩ := List.append_inj (reaches_of_readGroup reads).1 (Nat.succ.inj last).symm
    cases rest
    exact reads
  · intro reads
    refine ⟨congrArg _ (reaches_of_readGroup reads).1, ?_⟩
    rw [closing?, reads]
    rfl

theorem closesAtEnd_iff : closesAtEnd cs = true ↔ ∃ content, Encloses ('(' :: cs) content := by
  simp only [encloses_iff]
  unfold closesAtEnd
  split
  · next content reads => simp [reads]
  · next other => simpa using other

theorem inside?_eq_some_iff :
    inside? cs = some core ↔ ∃ content, Encloses cs content ∧ trim content = core := by
  unfold inside?
  split
  · simp only [encloses_iff]
    split
    · next reads => simp [reads]
    · next other => simpa using fun content reads => absurd reads (other content)
  · next other => simpa using fun content encloses => absurd encloses.1 (other _)

/-- Blanks and brackets around a text, layer by layer. -/
inductive Wraps (core : List Char) : List Char → Prop
  | bare : Wraps core core
  | before (blank : isBlank c = true) (inner : Wraps core cs) : Wraps core (c :: cs)
  | after (blank : isBlank c = true) (inner : Wraps core cs) : Wraps core (cs ++ [c])
  | layer (encloses : Encloses cs content) (inner : Wraps core content) : Wraps core cs

theorem Wraps.of_trim (inner : Wraps core (trim cs)) : Wraps core cs :=
  trim_kept (p := fun kept => Wraps core kept → Wraps core cs)
    (fun blank grow kept => grow (.before blank kept))
    (fun blank grow kept => grow (.after blank kept)) id inner

theorem wraps_peel (kept : trim cs = cs) (enough : cs.length ≤ n) :
    Wraps (peel n cs) cs ∧ inside? (peel n cs) = none ∧ trim (peel n cs) = peel n cs := by
  induction n generalizing cs with
  | zero =>
    cases List.length_eq_zero_iff.1 (Nat.le_zero.1 enough)
    exact ⟨.bare, rfl, rfl⟩
  | succ n ih =>
    rw [peel]
    split
    · next core found =>
        have shorter := length_of_inside? found
        obtain ⟨content, encloses, rfl⟩ := inside?_eq_some_iff.1 found
        obtain ⟨wraps, bare, trimmed⟩ := ih (trim_trim content) (by omega)
        exact ⟨.layer encloses wraps.of_trim, bare, trimmed⟩
    · exact ⟨.bare, ‹_›, kept⟩

/--
A bracket is closed at the first place outside quotes where as many brackets have closed as
opened. It is not closed if the depth does not come back to zero before the text ends, perhaps
inside quotes. The brackets that are left out around a text are the pairs that enclose all of it.
-/
theorem brackets_matched_and_stripped :
    (∀ cs i, closing? ('(' :: cs) = some i ↔
      IsLeast {i | i ≤ cs.length ∧ Reaches ('(' :: cs) (cs.drop i) 0} i) ∧
    (∀ cs, closing? ('(' :: cs) = none ↔
      (∃ rest depth, Reaches ('(' :: cs) rest depth ∧ advance? rest = none) ∧
        ∀ rest, Reaches ('(' :: cs) rest 0 → rest = '(' :: cs) ∧
    ∀ cs, bare (bare cs) = bare cs ∧ Wraps (bare cs) cs ∧ trim (bare cs) = bare cs ∧
      ∀ content, ¬Encloses (bare cs) content := by
  refine ⟨closing?_eq_some_iff, ?_, ?_⟩
  · intro cs
    rw [closing?_eq_none_iff]
    exact ⟨fun never => ⟨exists_end _, never⟩, And.right⟩
  · intro cs
    obtain ⟨wraps, outer, kept⟩ := wraps_peel (trim_trim cs) (Nat.le_refl _)
    rw [bare_eq_peel cs]
    refine ⟨?_, wraps.of_trim, kept, ?_⟩
    · rw [bare, kept]
      generalize (peel _ (trim cs)).length = n
      cases n <;> simp [peel, outer]
    · intro content encloses
      rw [inside?_eq_some_iff.2 ⟨content, encloses, rfl⟩] at outer
      cases outer

end SheetSql
