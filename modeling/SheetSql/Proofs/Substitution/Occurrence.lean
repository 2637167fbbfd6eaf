import SheetSql.Proofs.Meaning.Value

namespace SheetSql.Chars

/-! The occurrences of a text in another that do not overlap, from left to right. -/

def findFrom? (old cs : List Char) (start : Nat) : Option Nat :=
  (List.range (cs.length + 1)).find? fun i => decide (start ≤ i) && old.isPrefixOf (cs.drop i)

def occurrence? (old cs : List Char) : (nth : Nat) → Option Nat
  | 0 => none
  | 1 => findFrom? old cs 0
  | nth + 2 => (occurrence? old cs (nth + 1)).bind fun i => findFrom? old cs (i + old.length)

/-- A text with another text in the place of one occurrence, or as it is if there is none. -/
def substituted (old new : List Char) (nth : Nat) (cs : List Char) : List Char :=
  if old = [] then cs
  else (occurrence? old cs nth).elim cs fun i => cs.take i ++ new ++ cs.drop (i + old.length)

def pieces (separator : List Char) : (skip : Nat) → List Char → List (List Char)
  | _, [] => [[]]
  | skip + 1, _ :: cs => pieces separator skip cs
  | 0, c :: cs =>
    if Text.startsWith separator (c :: cs) then
      [] :: pieces separator (separator.length - 1) cs
    else (pieces separator 0 cs).modifyHead (c :: ·)

/-- The fields of a text. An empty text has none, and an empty separator separates nothing. -/
def fields (separator cs : List Char) : List (List Char) :=
  if cs = [] then [] else if separator = [] then [cs] else pieces separator 0 cs

theorem startsWith_iff (lead cs : List Char) : Text.startsWith lead cs = true ↔ lead <+: cs := by
  unfold Text.startsWith
  induction lead generalizing cs with
  | nil => simp [Text.rest?]
  | cons p lead ih =>
    cases cs with
    | nil => simp [Text.rest?]
    | cons c cs =>
      rw [Text.rest?, List.cons_prefix_cons]
      by_cases same : p = c
      · simp [same, ih]
      · simp [same]

variable {old cs : List Char}

/-- A position is that of the first occurrence, or zero if there is none. -/
theorem position_cases (filled : old ≠ []) (cs : List Char) :
    (position old cs = 0 ∧ ∀ i, ¬old <+: cs.drop i) ∨
      ∃ p, position old cs = p + 1 ∧ old <+: cs.drop p ∧ ∀ i < p, ¬old <+: cs.drop i := by
  induction cs with
  | nil =>
    have empty : old.isEmpty = false := List.isEmpty_eq_false_iff.2 filled
    refine .inl ⟨by simp [position, empty], fun i => ?_⟩
    rw [List.drop_nil, List.prefix_nil]
    exact filled
  | cons c cs ih =>
    by_cases here : old <+: c :: cs
    · refine .inr ⟨0, ?_, here, fun i less => absurd less (Nat.not_lt_zero i)⟩
      rw [position, if_pos ((startsWith_iff _ _).2 here)]
    · have step : position old (c :: cs) =
          if position old cs = 0 then 0 else position old cs + 1 := by
        rw [position, if_neg (mt (startsWith_iff _ _).1 here)]
      rcases ih with ⟨none, nowhere⟩ | ⟨p, found, occurs, first⟩
      · refine .inl ⟨by rw [step, if_pos none], fun i => ?_⟩
        cases i with
        | zero => exact here
        | succ i => exact nowhere i
      · refine .inr ⟨p + 1, ?_, occurs, fun i less => ?_⟩
        · rw [step, found, if_neg (Nat.succ_ne_zero p)]
        · cases i with
          | zero => exact here
          | succ i => exact first i (Nat.lt_of_succ_lt_succ less)

theorem length_le_of_prefix_drop (filled : old ≠ []) (occurs : old <+: cs.drop i) :
    i + old.length ≤ cs.length := by
  have length := occurs.length_le
  have some : 0 < old.length := List.length_pos_iff.2 filled
  rw [List.length_drop] at length
  omega

theorem findFrom?_eq (filled : old ≠ []) (cs : List Char) (start : Nat) :
    findFrom? old cs start =
      if position old (cs.drop start) = 0 then none
      else some (start + (position old (cs.drop start) - 1)) := by
  unfold findFrom?
  rcases position_cases filled (cs.drop start) with ⟨none, nowhere⟩ | ⟨p, found, occurs, first⟩
  · rw [none, if_pos rfl, List.find?_range_eq_none]
    intro i _
    by_cases late : start ≤ i
    · have absent := nowhere (i - start)
      rw [List.drop_drop, Nat.add_sub_cancel' late, ← List.isPrefixOf_iff_prefix] at absent
      simp [Bool.eq_false_of_not_eq_true absent]
    · simp [late]
  · rw [found, if_neg (Nat.succ_ne_zero p), Nat.add_sub_cancel, List.find?_range_eq_some]
    rw [List.drop_drop] at occurs
    have inside := length_le_of_prefix_drop filled occurs
    refine ⟨?_, List.mem_range.2 (by omega), fun i less => ?_⟩
    · simp [List.isPrefixOf_iff_prefix.2 occurs]
    · by_cases late : start ≤ i
      · have absent := first (i - start) (by omega)
        rw [List.drop_drop, Nat.add_sub_cancel' late, ← List.isPrefixOf_iff_prefix] at absent
        simp [Bool.eq_false_of_not_eq_true absent]
      · simp [late]

theorem pieces_ne_nil (separator : List Char) (skip : Nat) (cs : List Char) :
    pieces separator skip cs ≠ [] := by
  fun_induction pieces separator skip cs with
  | case1 => simp
  | case2 _ _ _ ih => exact ih
  | case3 => simp
  | case4 c cs _ ih =>
    cases shape : pieces separator 0 cs with
    | nil => exact absurd shape ih
    | cons first rest => simp

theorem pieces_skip (separator : List Char) (skip : Nat) (cs : List Char) :
    pieces separator skip cs = pieces separator 0 (cs.drop skip) := by
  induction cs generalizing skip with
  | nil => cases skip <;> simp [pieces]
  | cons c cs ih =>
    cases skip with
    | zero => rfl
    | succ skip => rw [pieces, ih, List.drop_succ_cons]

theorem pieces_eq (filled : old ≠ []) (cs : List Char) :
    pieces old 0 cs =
      if position old cs = 0 then [cs]
      else
        cs.take (position old cs - 1) ::
          pieces old 0 (cs.drop (position old cs - 1 + old.length)) := by
  induction cs with
  | nil =>
    have empty : old.isEmpty = false := List.isEmpty_eq_false_iff.2 filled
    simp [pieces, position, empty]
  | cons c cs ih =>
    rw [pieces, position]
    split
    · have some : 0 < old.length := List.length_pos_iff.2 filled
      obtain ⟨length, same⟩ : ∃ n, old.length = n + 1 := ⟨old.length - 1, by omega⟩
      rw [pieces_skip, same]
      simp
    · rw [ih]
      split
      · simp
      · next found =>
          obtain ⟨p, same⟩ : ∃ p, position old cs = p + 1 := ⟨position old cs - 1, by omega⟩
          rw [same]
          simp [Nat.add_right_comm p 1]

theorem intercalate_pieces (filled : old ≠ []) (cs : List Char) :
    old.intercalate (pieces old 0 cs) = cs := by
  suffices all : ∀ skip, old.intercalate (pieces old skip cs) = cs.drop skip from all 0
  induction cs with
  | nil => intro skip; cases skip <;> simp [pieces]
  | cons c cs ih =>
    intro skip
    cases skip with
    | succ skip => rw [pieces, ih, List.drop_succ_cons]
    | zero =>
      rw [pieces, List.drop_zero]
      split
      · next here =>
          obtain ⟨rest, same⟩ := (startsWith_iff _ _).1 here
          rw [List.intercalate_cons_of_ne_nil (pieces_ne_nil _ _ _), ih, List.nil_append]
          obtain ⟨d, tail, rfl⟩ := List.exists_cons_of_ne_nil filled
          rw [List.cons_append, List.cons.injEq] at same
          obtain ⟨rfl, rfl⟩ := same
          simp
      · cases shape : pieces old 0 cs with
        | nil => exact absurd shape (pieces_ne_nil _ _ _)
        | cons first rest =>
          have whole := ih 0
          rw [shape, List.drop_zero] at whole
          rw [List.modifyHead_cons, ← whole]
          cases rest with
          | nil => simp
          | cons next rest => simp

theorem prefix_of_findFrom? (found : findFrom? old cs start = some i) : old <+: cs.drop i := by
  have test := (List.find?_range_eq_some.1 found).1
  exact List.isPrefixOf_iff_prefix.1 (Bool.and_eq_true_iff.1 test).2

theorem prefix_of_occurrence? {nth i : Nat} (found : occurrence? old cs nth = some i) :
    old <+: cs.drop i := by
  cases nth with
  | zero => cases found
  | succ nth =>
    cases nth with
    | zero => exact prefix_of_findFrom? found
    | succ nth =>
      obtain ⟨before, -, found⟩ := Option.bind_eq_some_iff.1 found
      exact prefix_of_findFrom? found

theorem take_append_of_prefix {i : Nat} (occurs : old <+: cs.drop i) :
    cs.take i ++ old = cs.take (i + old.length) := by
  rw [List.take_add, ← List.prefix_iff_eq_take.1 occurs]

theorem intercalate_concat (separator : List Char) {list : List (List Char)} (filled : list ≠ [])
    (last : List Char) :
    separator.intercalate (list ++ [last]) = separator.intercalate list ++ separator ++ last := by
  induction list with
  | nil => exact absurd rfl filled
  | cons first rest ih =>
    cases rest with
    | nil => simp
    | cons next rest =>
      have inner := ih (List.cons_ne_nil next rest)
      rw [List.cons_append, List.intercalate_cons_of_ne_nil (by simp), inner,
        List.intercalate_cons_cons]
      simp

theorem take_of_drop_eq_cons {α : Type} {list rest : List α} {first : α} {n : Nat}
    (same : list.drop n = first :: rest) :
    list.take (n + 1) = list.take n ++ [first] ∧ list.drop (n + 1) = rest := by
  have item : list[n]? = some first := by
    rw [← List.head?_drop, same]
    rfl
  refine ⟨by rw [List.take_add_one, item]; rfl, ?_⟩
  rw [← List.tail_drop, same]
  rfl

theorem pieces_at_occurrence (filled : old ≠ []) (cs : List Char) (nth : Nat) :
    (occurrence? old cs (nth + 1) = none ∧ (pieces old 0 cs).length ≤ nth + 1) ∨
      ∃ i, occurrence? old cs (nth + 1) = some i ∧
        old.intercalate ((pieces old 0 cs).take (nth + 1)) = cs.take i ∧
        (pieces old 0 cs).drop (nth + 1) = pieces old 0 (cs.drop (i + old.length)) := by
  induction nth with
  | zero =>
    have shape := pieces_eq filled cs
    rw [occurrence?, findFrom?_eq filled, List.drop_zero]
    split at shape
    · next none => exact .inl ⟨if_pos none, by rw [shape]; exact Nat.le_refl 1⟩
    · next some =>
        refine .inr ⟨position old cs - 1, ?_, ?_, ?_⟩
        · rw [if_neg some, Nat.zero_add]
        · rw [shape]
          exact List.intercalate_singleton
        · rw [shape]
          rfl
  | succ nth ih =>
    rw [occurrence?]
    rcases ih with ⟨none, short⟩ | ⟨i, found, joined, others⟩
    · exact .inl ⟨by rw [none]; rfl, by omega⟩
    -- What follows the occurrence is either the last piece or goes on to the next occurrence.
    have shape := pieces_eq filled (cs.drop (i + old.length))
    rw [found, Option.bind_some, findFrom?_eq filled]
    split at shape
    · next none =>
        refine .inl ⟨if_pos none, ?_⟩
        obtain ⟨-, last⟩ := take_of_drop_eq_cons (others.trans shape)
        exact List.drop_eq_nil_iff.1 last
    · next some =>
        obtain ⟨firsts, rest⟩ := take_of_drop_eq_cons (others.trans shape)
        have filled' : (pieces old 0 cs).take (nth + 1) ≠ [] := by
          intro none
          rcases List.take_eq_nil_iff.1 none with zero | empty
          · cases zero
          · exact pieces_ne_nil _ _ _ empty
        refine .inr ⟨_, if_neg some, ?_, ?_⟩
        · rw [firsts, intercalate_concat old filled', joined,
            take_append_of_prefix (prefix_of_occurrence? found)]
          exact List.take_add.symm
        · rw [rest, List.drop_drop, ← Nat.add_assoc]

theorem substituted_eq_fields (new : List Char) (some : 1 ≤ nth) :
    substituted old new nth cs =
      if old = [] ∨ (fields old cs).length ≤ nth then cs
      else
        old.intercalate ((fields old cs).take nth) ++ new ++
          old.intercalate ((fields old cs).drop nth) := by
  obtain ⟨n, rfl⟩ := Nat.exists_eq_add_of_le' some
  by_cases empty : old = []
  · rw [substituted, if_pos empty, if_pos (.inl empty)]
  by_cases blank : cs = []
  · have none : occurrence? old cs (n + 1) = none := by
      rcases pieces_at_occurrence empty cs n with ⟨none, -⟩ | ⟨i, found, -⟩
      · exact none
      · have occurs := prefix_of_occurrence? found
        rw [blank, List.drop_nil, List.prefix_nil] at occurs
        exact absurd occurs empty
    have short : (fields old cs).length ≤ n + 1 := by
      rw [fields, if_pos blank]
      exact Nat.zero_le _
    rw [substituted, if_neg empty, none, if_pos (.inr short)]
    rfl
  have apart : fields old cs = pieces old 0 cs := by rw [fields, if_neg blank, if_neg empty]
  rw [substituted, if_neg empty, apart]
  rcases pieces_at_occurrence empty cs n with ⟨none, short⟩ | ⟨i, found, joined, others⟩
  · rw [none, if_pos (.inr short)]
    rfl
  · have long : ¬(old = [] ∨ (pieces old 0 cs).length ≤ n + 1) := by
      rintro (isEmpty | short)
      · exact empty isEmpty
      · rw [List.drop_eq_nil_iff.2 short] at others
        exact pieces_ne_nil _ _ _ others.symm
    rw [found, if_neg long, joined, others, intercalate_pieces empty]
    rfl

def spot (old cs : List Char) (nth : Nat) : Nat := (occurrence? old cs nth).elim 0 (· + 1)

theorem spot_one (filled : old ≠ []) (cs : List Char) : spot old cs 1 = position old cs := by
  rw [spot, occurrence?, findFrom?_eq filled, List.drop_zero]
  split
  · next none => exact none.symm
  · next some =>
      change 0 + (position old cs - 1) + 1 = position old cs
      omega

theorem spot_succ (filled : old ≠ []) (cs : List Char) (some : 0 < spot old cs nth) :
    spot old cs (nth + 1) =
      if position old (cs.drop (spot old cs nth + old.length - 1)) = 0 then 0
      else
        spot old cs nth + old.length +
          position old (cs.drop (spot old cs nth + old.length - 1)) - 1 := by
  cases nth with
  | zero => exact absurd some (Nat.lt_irrefl 0)
  | succ nth =>
    cases found : occurrence? old cs (nth + 1) with
    | none =>
      rw [spot, found] at some
      exact absurd some (Nat.lt_irrefl 0)
    | some i =>
      have here : spot old cs (nth + 1) = i + 1 := by rw [spot, found]; rfl
      have after : i + 1 + old.length - 1 = i + old.length := by omega
      rw [here, after, spot, occurrence?, found, Option.bind_some, findFrom?_eq filled]
      split
      · rfl
      · next some =>
          change i + old.length + (position old (cs.drop (i + old.length)) - 1) + 1 = _
          omega

theorem substituted_eq_spot (filled : old ≠ []) (new cs : List Char) (nth : Nat) :
    substituted old new nth cs =
      if spot old cs nth = 0 then cs
      else
        cs.take (spot old cs nth - 1) ++ new ++ cs.drop (spot old cs nth + old.length - 1) := by
  rw [substituted, if_neg filled, spot]
  cases occurrence? old cs nth with
  | none => rfl
  | some i =>
    have after : i + 1 + old.length - 1 = i + old.length := by omega
    change cs.take i ++ new ++ cs.drop (i + old.length) =
      if i + 1 = 0 then cs else cs.take (i + 1 - 1) ++ new ++ cs.drop (i + 1 + old.length - 1)
    rw [if_neg (Nat.succ_ne_zero i), after, Nat.add_sub_cancel]

theorem spot_eq_zero_of_le (first : 1 ≤ k) (le : k ≤ n) (none : spot old cs k = 0) :
    spot old cs n = 0 := by
  have absent : ∀ {m : Nat}, spot old cs m = 0 ↔ occurrence? old cs m = .none := by
    intro m
    rw [spot]
    cases occurrence? old cs m <;> simp
  rw [absent] at none ⊢
  induction le with
  | refl => exact none
  | @step m le ih =>
    obtain ⟨j, rfl⟩ := Nat.exists_eq_add_of_le' (first.trans le)
    rw [Nat.succ_eq_add_one, occurrence?, ih]
    rfl

/-- The numbers that are looked at from a number on, of which the last may have no occurrence. -/
def walk (old cs : List Char) : (left k : Nat) → List Nat
  | 0, k => [k]
  | left + 1, k => k :: if 0 < spot old cs k then walk old cs left (k + 1) else []

theorem filter_walk (old cs : List Char) (first : 1 ≤ k) (last : k + left = n) :
    (walk old cs left k).filter (fun j => decide (j = n ∧ 0 < spot old cs j)) =
      if 0 < spot old cs n then [n] else [] := by
  induction left generalizing k with
  | zero => simp [walk, List.filter_cons, ← last]
  | succ left ih =>
    have apart : ¬(k = n ∧ 0 < spot old cs k) := by omega
    rw [walk, List.filter_cons_of_neg (by rwa [decide_eq_true_iff])]
    split
    · exact ih (Nat.le_add_left 1 k) (by omega)
    · next missing =>
        have none := spot_eq_zero_of_le first (show k ≤ n by omega)
          (Nat.eq_zero_of_not_pos missing)
        rw [if_neg (by omega)]
        rfl

end SheetSql.Chars
