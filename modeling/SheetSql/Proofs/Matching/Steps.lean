import SheetSql.Match.Pattern.Text
import SheetSql.Match.Regex

namespace SheetSql

/-!
The reader of patterns step by step, and what follows the brackets that open a numbered group.
-/

namespace Pattern

/-- What follows a bracket that opens a numbered group, if a text starts with one. -/
def capturing? (verbose : Bool) : List Char → Option (List Char)
  | '(' :: rest =>
    match groupStart? verbose rest with
    | some (.group name _, inner) =>
      if name.isSome || (skipSpace verbose rest).head? != some '?' then some inner else none
    | _ => none
  | _ => none

/-- What follows each bracket that opens a numbered group, in the order in which they are read. -/
def openings : Nat → Reader → List Char → List (List Char)
  | 0, _, _ => []
  | fuel + 1, reader, cs =>
    let cs := skipSpace reader.verbose cs
    match step? reader cs with
    | none => []
    | some (next, rest) => (capturing? reader.verbose cs).toList ++ openings fuel next rest

theorem skipSpace_false (cs : List Char) : skipSpace false cs = cs := by
  cases cs <;> simp [skipSpace, run]

/-- Steps over a text that is not verbose, with what follows the brackets that they pass. -/
inductive Reads : Nat → Reader → List Char → List (List Char) → Reader → List Char → Prop
  | refl : Reads 0 reader cs [] reader cs
  | step (plain : reader.verbose = false) (first : step? reader cs = some (next, more))
      (others : Reads n next more opened last rest) :
      Reads (n + 1) reader cs ((capturing? false cs).toList ++ opened) last rest

theorem Reads.one (plain : reader.verbose = false) (first : step? reader cs = some (next, rest)) :
    Reads 1 reader cs (capturing? false cs).toList next rest := by
  rw [← List.append_nil (capturing? false cs).toList]
  exact .step plain first .refl

theorem Reads.trans (first : Reads n reader cs opened next more)
    (second : Reads m next more opened' last rest) :
    Reads (n + m) reader cs (opened ++ opened') last rest := by
  induction first with
  | refl =>
    rw [Nat.zero_add]
    exact second
  | step plain first _ ih =>
    rw [List.append_assoc, Nat.succ_add]
    exact .step plain first (ih second)

/-- A reader that comes to the end in fewer steps than it may take reads the text. -/
theorem Reads.read? (reads : Reads n reader cs opened last rest) (ends : rest = [])
    (closed : last.groups = []) (enough : n < fuel) :
    Pattern.read? fuel reader cs = some last.whole ∧ openings fuel reader cs = opened := by
  obtain ⟨fuel, rfl⟩ := Nat.exists_eq_add_of_lt enough
  induction reads generalizing fuel with
  | refl =>
    subst ends
    simp [Pattern.read?, openings, skipSpace, run, closed, step?]
  | @step reader cs _ _ n _ _ _ plain first _ ih =>
    obtain ⟨reads, opens⟩ := ih ends closed fuel (by omega)
    rw [show n + 1 + fuel + 1 = n + fuel + 1 + 1 by omega]
    cases cs with
    | nil => cases first
    | cons c cs =>
      rw [Pattern.read?, openings, plain, skipSpace_false]
      simp [first, reads, opens]

/-- Steps that pass no bracket of a numbered group, as a function that can be run. -/
def steps : Nat → Reader → List Char → Option (Reader × List Char)
  | 0, reader, cs => some (reader, cs)
  | n + 1, ⟨false, branches, parts, groups, names⟩, cs =>
    match capturing? false cs, step? ⟨false, branches, parts, groups, names⟩ cs with
    | none, some (next, rest) => steps n next rest
    | _, _ => none
  | _, _, _ => none

theorem reads_of_steps (stepped : steps n reader cs = some (last, rest)) :
    Reads n reader cs [] last rest := by
  fun_induction steps n reader cs with
  | case1 =>
    cases stepped
    exact .refl
  | case2 n branches parts groups names cs next more first quiet ih =>
    have reads : Reads (n + 1) ⟨false, branches, parts, groups, names⟩ cs _ last rest :=
      .step rfl first (ih stepped)
    rw [quiet] at reads
    exact reads
  | case3 => cases stepped
  | case4 => cases stepped

theorem skipLazy_of_head (greedy : rest.head? ≠ some '?') : skipLazy rest = rest := by
  unfold skipLazy
  split
  · exact absurd rfl greedy
  · rfl

theorem groupStart?_of_head (unmarked : cs.head? ≠ some '?') :
    groupStart? false cs = some (.group none ⟨none, none⟩, cs) := by
  rw [groupStart?, skipSpace_false]
  dsimp only
  split
  any_goals exact absurd rfl unmarked
  rfl

/-- The reader after the bracket of a group that says nothing else. -/
def Reader.inside (reader : Reader) : Reader :=
  ⟨false, [], [], ⟨⟨none, none⟩, false, reader.branches, reader.parts⟩ :: reader.groups,
    reader.names⟩

theorem reads_open (captures : Bool) (plain : reader.verbose = false)
    (unmarked : cs.head? ≠ some '?') :
    Reads 1 reader ((if captures then ['('] else ['(', '?', ':']) ++ cs)
      (if captures then [cs] else []) reader.inside cs := by
  cases captures with
  | false =>
    refine .one plain ?_
    simp [step?, plain, groupStart?, skipSpace_false, flags?, OpenFlags.start, Reader.open?,
      Reader.inside]
  | true =>
    have found := groupStart?_of_head unmarked
    have captured : capturing? false ('(' :: cs) = some cs := by
      simp [capturing?, found, skipSpace_false, unmarked]
    have opens : step? reader ('(' :: cs) = some (reader.inside, cs) := by
      simp [step?, plain, found, Reader.open?, Reader.inside]
    have reads := Reads.one plain opens
    rw [captured] at reads
    exact reads

theorem reads_close {reader : Reader} (plain : reader.verbose = false)
    (branches parts : List Pattern) (rest : List Char) :
    Reads 1 { reader.inside with branches, parts } (')' :: rest) []
      (reader.add (.group ⟨none, none⟩ (Reader.whole { reader.inside with branches, parts })))
      rest := by
  refine .one rfl ?_
  rw [Reader.add, plain]
  rfl

theorem step?_char (reader : Reader) (c : Char) (rest : List Char) :
    step? reader ((Regex.char c).chars ++ rest) = some (reader.add (.char c), rest) := by
  rw [Regex.chars]
  split
  · next isSpecial =>
    simp only [Regex.isMeta, String.reduceToList, List.contains_eq_mem, decide_eq_true_eq,
      List.mem_cons, List.not_mem_nil, or_false] at isSpecial
    rcases isSpecial with rfl | rfl | rfl | rfl | rfl | rfl | rfl | rfl | rfl | rfl | rfl | rfl |
      rfl | rfl <;> rfl
  · next isPlain =>
    rw [List.singleton_append]
    unfold step?
    -- A character that is not special is left to the last case.
    split
    any_goals
      rename_i same
      cases same <;> exact absurd rfl isPlain
    next same =>
      cases same
      rfl

theorem capturing?_char (c : Char) (rest : List Char) :
    capturing? false ((Regex.char c).chars ++ rest) = none := by
  rw [Regex.chars]
  split
  · rfl
  · next isPlain =>
    unfold capturing?
    split
    · next same =>
      cases same
      exact absurd rfl isPlain
    · rfl

theorem reads_char (plain : reader.verbose = false) (c : Char) (rest : List Char) :
    Reads 1 reader ((Regex.char c).chars ++ rest) [] (reader.add (.char c)) rest := by
  have reads := Reads.one plain (step?_char reader c rest)
  rw [capturing?_char] at reads
  exact reads

end Pattern

end SheetSql
