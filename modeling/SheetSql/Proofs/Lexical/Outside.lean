import SheetSql.Sql.Literal

namespace SheetSql.Sql

open Text

/-!
Texts read from left to right: what stands outside quotes, how deep the brackets are there, and
which words occur.
-/

def isSqlQuote (c : Char) : Bool := c == singleQuote || c == doubleQuote

/--
The characters outside quotes, with the quotes themselves, of a text that starts inside the quote
`quoted`. There are none if the text ends inside quotes.
-/
def outside? (quotes : Char → Bool) : Option Char → List Char → Option (List Char)
  | none, [] => some []
  | some _, [] => none
  | none, c :: rest =>
    (outside? quotes (if quotes c then some c else none) rest).map (c :: ·)
  | some q, c :: rest =>
    if c = q then (outside? quotes none rest).map (c :: ·)
    else outside? quotes (some q) rest

def depthAfter : Nat → List Char → Option Nat
  | depth, [] => some depth
  | depth, c :: rest =>
    if c = '(' then depthAfter (depth + 1) rest
    else if c = ')' then
      match depth with
      | 0 => none
      | depth + 1 => depthAfter depth rest
    else depthAfter depth rest

def occurs (word : String) : List Char → Bool
  | [] => false
  | c :: rest => leads word.toList (c :: rest) || occurs word rest

-- The equations of the readings, with which the lemmas below open.
attribute [local simp] outside? depthAfter occurs

theorem outside?_append (closed : outside? quotes quoted s = some found) :
    outside? quotes quoted (s ++ t) = (outside? quotes none t).map (found ++ ·) := by
  induction s generalizing quoted found with
  | nil =>
    cases quoted with
    | none =>
      cases closed
      simp
    | some q => simp [outside?] at closed
  | cons c rest ih =>
    cases quoted with
    | none =>
      rw [outside?, Option.map_eq_some_iff] at closed
      obtain ⟨after, hafter, rfl⟩ := closed
      rw [List.cons_append, outside?, ih hafter, Option.map_map]
      rfl
    | some q =>
      rw [outside?] at closed
      rw [List.cons_append, outside?]
      split at closed
      · obtain ⟨after, hafter, rfl⟩ := Option.map_eq_some_iff.1 closed
        rw [if_pos ‹c = q›, ih hafter, Option.map_map]
        rfl
      · rw [if_neg ‹¬c = q›, ih closed]

theorem outside?_of_plain (plain : ∀ c ∈ s, quotes c = false) :
    outside? quotes none s = some s := by
  induction s with
  | nil => rfl
  | cons c rest ih =>
    rw [outside?, plain c (by simp), if_neg Bool.false_ne_true,
      ih fun d member => plain d (by simp [member])]
    rfl

theorem outside?_concat (closed : outside? quotes quoted (s ++ [c]) = some found) :
    ∃ before, found = before ++ [c] := by
  induction s generalizing quoted found with
  | nil =>
    cases quoted with
    | none =>
      rw [List.nil_append, outside?, Option.map_eq_some_iff] at closed
      obtain ⟨after, hafter, rfl⟩ := closed
      split at hafter
      · simp [outside?] at hafter
      · cases hafter
        exact ⟨[], rfl⟩
    | some q =>
      rw [List.nil_append, outside?] at closed
      split at closed
      · cases closed
        exact ⟨[], rfl⟩
      · simp [outside?] at closed
  | cons d rest ih =>
    cases quoted with
    | none =>
      rw [List.cons_append, outside?, Option.map_eq_some_iff] at closed
      obtain ⟨after, hafter, rfl⟩ := closed
      obtain ⟨before, rfl⟩ := ih hafter
      exact ⟨d :: before, rfl⟩
    | some q =>
      rw [List.cons_append, outside?] at closed
      split at closed
      · obtain ⟨after, hafter, rfl⟩ := Option.map_eq_some_iff.1 closed
        obtain ⟨before, rfl⟩ := ih hafter
        exact ⟨d :: before, rfl⟩
      · exact ih closed

theorem outside?_of_concat (plain : quotes c = false)
    (known : ∀ q, quoted = some q → quotes q = true)
    (closed : outside? quotes quoted (s ++ [c]) = some found) :
    ∃ before, outside? quotes quoted s = some before ∧ found = before ++ [c] := by
  induction s generalizing quoted found with
  | nil =>
    cases quoted with
    | none =>
      rw [List.nil_append, outside?, plain] at closed
      cases closed
      exact ⟨[], rfl, rfl⟩
    | some q =>
      have differ : c ≠ q := by
        intro same
        have := known q rfl
        simp [← same, plain] at this
      rw [List.nil_append, outside?, if_neg differ] at closed
      simp [outside?] at closed
  | cons d rest ih =>
    cases quoted with
    | none =>
      rw [List.cons_append, outside?, Option.map_eq_some_iff] at closed
      obtain ⟨after, hafter, rfl⟩ := closed
      have opened : ∀ q, (if quotes d then some d else none) = some q → quotes q = true := by
        intro q same
        split at same
        · cases same
          assumption
        · cases same
      obtain ⟨before, hbefore, rfl⟩ := ih opened hafter
      exact ⟨d :: before, by rw [outside?, hbefore]; rfl, rfl⟩
    | some q =>
      rw [List.cons_append, outside?] at closed
      split at closed
      · obtain ⟨after, hafter, rfl⟩ := Option.map_eq_some_iff.1 closed
        obtain ⟨before, hbefore, rfl⟩ := ih (by simp) hafter
        exact ⟨d :: before, by rw [outside?, if_pos ‹d = q›, hbefore]; rfl, rfl⟩
      · obtain ⟨before, hbefore, rfl⟩ := ih known closed
        exact ⟨before, by rw [outside?, if_neg ‹¬d = q›, hbefore], rfl⟩

theorem outside?_double (quote : quotes q = true) (s : List Char) :
    ∃ n, outside? quotes (some q) (double q s ++ [q]) = some (List.replicate n q) := by
  induction s with
  | nil => exact ⟨1, by simp [double, outside?]⟩
  | cons c rest ih =>
    obtain ⟨n, hn⟩ := ih
    by_cases same : c = q
    · refine ⟨n + 2, ?_⟩
      simp [double, same, outside?, quote, hn, List.replicate_succ]
    · refine ⟨n, ?_⟩
      simp [double, same, outside?, hn]

theorem outside?_enclose (quote : isSqlQuote q = true) (s : String) :
    ∃ n, outside? isSqlQuote none (enclose q s).toList = some (List.replicate n q) := by
  obtain ⟨n, hn⟩ := outside?_double quote s.toList
  refine ⟨n + 1, ?_⟩
  simp [enclose, outside?, quote, hn, List.replicate_succ]

theorem depthAfter_append (depth : Nat) (s t : List Char) :
    depthAfter depth (s ++ t) = (depthAfter depth s).bind (depthAfter · t) := by
  induction s generalizing depth with
  | nil => rfl
  | cons c rest ih =>
    rw [List.cons_append, depthAfter.eq_def, depthAfter.eq_def depth (c :: rest)]
    dsimp only
    split
    · exact ih (depth + 1)
    · split
      · cases depth with
        | zero => rfl
        | succ depth => exact ih depth
      · exact ih depth

theorem depthAfter_add (more : Nat) (read : depthAfter depth s = some after) :
    depthAfter (depth + more) s = some (after + more) := by
  induction s generalizing depth with
  | nil =>
    cases read
    rfl
  | cons c rest ih =>
    rw [depthAfter.eq_def] at read ⊢
    dsimp only at read ⊢
    split at read
    · rw [if_pos ‹c = '('›, ← ih read]
      congr 1
      omega
    · rw [if_neg ‹¬c = '('›]
      split at read
      · cases depth with
        | zero => cases read
        | succ depth =>
          rw [if_pos ‹c = ')'›, Nat.succ_add_eq_add_succ, Nat.add_succ]
          exact ih read
      · rw [if_neg ‹¬c = ')'›]
        exact ih read

theorem depthAfter_of_plain (plain : ∀ c ∈ s, c ≠ '(' ∧ c ≠ ')') (depth : Nat) :
    depthAfter depth s = some depth := by
  induction s with
  | nil => rfl
  | cons c rest ih =>
    obtain ⟨opening, closing⟩ := plain c (by simp)
    rw [depthAfter.eq_def]
    dsimp only
    rw [if_neg opening, if_neg closing]
    exact ih fun d member => plain d (by simp [member])

/-- A letter, or a character of a comment opener. -/
def isSolid (c : Char) : Bool := c.isAlpha || c == '-' || c == '/' || c == '*'

theorem isAlpha_iff (c : Char) :
    c.isAlpha = true ↔
      (65 ≤ c.toNat ∧ c.toNat ≤ 90) ∨ (97 ≤ c.toNat ∧ c.toNat ≤ 122) := by
  delta Char.isAlpha Char.isUpper Char.isLower
  simp [UInt32.le_iff_toNat_le]

theorem isSolid_iff (c : Char) :
    isSolid c = true ↔
      (65 ≤ c.toNat ∧ c.toNat ≤ 90) ∨ (97 ≤ c.toNat ∧ c.toNat ≤ 122) ∨
        c.toNat = 45 ∨ c.toNat = 47 ∨ c.toNat = 42 := by
  simp [isSolid, isAlpha_iff, ← Char.toNat_inj, or_assoc]

theorem toNat_toLower (c : Char) :
    c.toLower.toNat = if 65 ≤ c.toNat ∧ c.toNat ≤ 90 then c.toNat + 32 else c.toNat := by
  have upper : (c.val ≥ 'A'.val ∧ c.val ≤ 'Z'.val) ↔ 65 ≤ c.toNat ∧ c.toNat ≤ 90 := by
    simp [UInt32.le_iff_toNat_le]
  unfold Char.toLower
  split
  · have bounds := upper.1 ‹_›
    have distance : ('a'.val - 'A'.val).toNat = 32 := rfl
    rw [if_pos bounds]
    change (c.val + ('a'.val - 'A'.val)).toNat = _
    rw [UInt32.toNat_add, distance, Char.toNat_val]
    exact Nat.mod_eq_of_lt (by omega)
  · rw [if_neg fun bounds => ‹¬_› (upper.2 bounds)]

theorem isSolid_toLower (c : Char) : isSolid c.toLower = isSolid c := by
  rw [Bool.eq_iff_iff, isSolid_iff, isSolid_iff, toNat_toLower]
  split <;> omega

theorem isSolid_of_isBlank (blank : isBlank c = true) : isSolid c = false := by
  rw [← Bool.not_eq_true, isSolid_iff]
  simp only [isBlank, Bool.or_eq_true, Bool.and_eq_true, decide_eq_true_eq,
    beq_iff_eq] at blank
  omega

/-- A class of characters that has no quotes and no brackets. -/
theorem plain_of_apart {p : Char → Bool}
    (apart : [singleQuote, doubleQuote, backQuote, '(', ')'].all (!p ·) = true)
    (holds : p c = true) : isQuote c = false ∧ c ≠ '(' ∧ c ≠ ')' := by
  have differs : ∀ d ∈ [singleQuote, doubleQuote, backQuote, '(', ')'], c ≠ d := by
    rintro d member rfl
    have other := List.all_eq_true.1 apart c member
    rw [holds] at other
    cases other
  simpa [isQuote, and_assoc] using differs

theorem isSqlQuote_eq_false (plain : isQuote c = false) : isSqlQuote c = false := by
  rw [isQuote, Bool.or_eq_false_iff] at plain
  exact plain.1

theorem plain_of_isBlank (blank : isBlank c = true) : isQuote c = false ∧ c ≠ '(' ∧ c ≠ ')' :=
  plain_of_apart (by decide) blank

theorem depthAfter_blank (blank : isBlank c = true) (depth : Nat) :
    depthAfter depth [c] = some depth := by
  refine depthAfter_of_plain (fun d member => ?_) depth
  rw [List.mem_singleton.1 member]
  exact (plain_of_isBlank blank).2

section

variable {quotes : Char → Bool} {c : Char} {cs found : List Char} {before after : Nat}
  (blank : isBlank c = true) (plain : quotes c = false)
  (level : depthAfter before found = some after)

include blank plain level

theorem outside?_of_blank_cons (closed : outside? quotes none (c :: cs) = some found) :
    ∃ rest, found = c :: rest ∧ outside? quotes none cs = some rest ∧
      depthAfter before rest = some after := by
  rw [outside?, plain, Option.map_eq_some_iff] at closed
  obtain ⟨rest, closed, rfl⟩ := closed
  rw [← List.singleton_append, depthAfter_append, depthAfter_blank blank] at level
  exact ⟨rest, rfl, closed, level⟩

theorem outside?_of_concat_blank (closed : outside? quotes none (cs ++ [c]) = some found) :
    ∃ rest, found = rest ++ [c] ∧ outside? quotes none cs = some rest ∧
      depthAfter before rest = some after := by
  obtain ⟨rest, inner, rfl⟩ := outside?_of_concat plain (by simp) closed
  rw [depthAfter_append, Option.bind_eq_some_iff] at level
  obtain ⟨between, same, last⟩ := level
  rw [depthAfter_blank blank] at last
  cases last
  exact ⟨rest, rfl, inner, same⟩

end

theorem trim_kept {p : List Char → Prop}
    (front : ∀ {c : Char} {cs : List Char}, isBlank c = true → p (c :: cs) → p cs)
    (back : ∀ {c : Char} {cs : List Char}, isBlank c = true → p (cs ++ [c]) → p cs)
    {cs : List Char} (whole : p cs) : p (trim cs) := by
  have started : p (trimStart cs) := by
    induction cs with
    | nil => exact whole
    | cons c rest ih =>
      rw [trimStart, List.dropWhile_cons]
      split
      · exact ih (front ‹_› whole)
      · exact whole
  rw [trim, trimEnd]
  rw [← List.reverse_reverse (trimStart cs)] at started
  generalize (trimStart cs).reverse = reversed at started ⊢
  -- The induction takes one character after the other off the end.
  induction reversed with
  | nil => exact started
  | cons c rest ih =>
    rw [List.dropWhile_cons]
    split
    · rw [List.reverse_cons] at started
      exact ih (back ‹_› started)
    · exact started

def isSolidWord (word : String) : Bool :=
  !word.toList.isEmpty && word.toList.all isSolid

theorem leads_append_gap {lead : List Char} (solid : lead.all isSolid = true)
    (apart : isSolid gap = false) : leads lead (s ++ gap :: t) = leads lead s := by
  induction lead generalizing s with
  | nil => rfl
  | cons p lead ih =>
    rw [List.all_cons, Bool.and_eq_true] at solid
    cases s with
    | nil =>
      have differ : (p.toLower == gap.toLower) = false := by
        rw [beq_eq_false_iff_ne]
        intro same
        have kept := isSolid_toLower p
        rw [same, isSolid_toLower, apart, solid.1] at kept
        cases kept
      simp [leads, rest?, differ]
    | cons c rest =>
      have further := ih (s := rest) solid.2
      simp only [leads, List.cons_append, rest?] at further ⊢
      split
      · exact further
      · rfl

theorem leads_gap {lead t : List Char} {gap : Char} (word : lead ≠ [])
    (solid : lead.all isSolid = true) (apart : isSolid gap = false) :
    leads lead (gap :: t) = false := by
  have before := leads_append_gap (s := []) (t := t) solid apart
  rw [List.nil_append] at before
  rw [before]
  cases lead with
  | nil => exact absurd rfl word
  | cons p lead => rfl

theorem occurs_append_gap (solid : isSolidWord word = true) (apart : isSolid gap = false) :
    occurs word (s ++ gap :: t) = (occurs word s || occurs word t) := by
  simp only [isSolidWord, Bool.and_eq_true, Bool.not_eq_true',
    List.isEmpty_eq_false_iff] at solid
  induction s with
  | nil =>
    rw [List.nil_append, occurs.eq_2, leads_gap solid.1 solid.2 apart]
    rfl
  | cons c rest ih =>
    rw [List.cons_append, occurs, occurs, ih, ← List.cons_append,
      leads_append_gap solid.2 apart, Bool.or_assoc]

theorem occurs_of_gaps (solid : isSolidWord word = true) (gaps : ∀ c ∈ s, isSolid c = false) :
    occurs word s = false := by
  induction s with
  | nil => rfl
  | cons c rest ih =>
    have split := occurs_append_gap (s := []) (t := rest) solid (gaps c (by simp))
    rw [List.nil_append] at split
    rw [split, ih fun d member => gaps d (by simp [member])]
    rfl

end SheetSql.Sql
