namespace SheetSql.Text

/-!
Quoted texts. Inside quotes the quote itself is written twice, and reading stops at the
first quote that stands alone.
-/

def singleQuote : Char := '\x27'

def doubleQuote : Char := '\x22'

def backQuote : Char := '\x60'

def isQuote (c : Char) : Bool :=
  c == singleQuote || c == doubleQuote || c == backQuote

def double (q : Char) : List Char → List Char
  | [] => []
  | c :: rest => if c = q then q :: q :: double q rest else c :: double q rest

def enclose (q : Char) (s : String) : String :=
  String.ofList (q :: double q s.toList ++ [q])

def readQuoted (q : Char) : List Char → Option (List Char × List Char)
  | [] => none
  | [c] => if c = q then some ([], []) else none
  | c :: d :: rest =>
    if c = q then
      if d = q then (readQuoted q rest).map fun found => (q :: found.1, found.2)
      else some ([], d :: rest)
    else (readQuoted q (d :: rest)).map fun found => (c :: found.1, found.2)

theorem readQuoted_double {q : Char} {rest : List Char} (ends : rest.head? ≠ some q)
    (s : List Char) : readQuoted q (double q s ++ q :: rest) = some (s, rest) := by
  induction s with
  | nil =>
    cases rest with
    | nil => simp [double, readQuoted]
    | cons c rest =>
      have other : c ≠ q := by simpa using ends
      simp [double, readQuoted, other]
  | cons c s ih =>
    by_cases same : c = q
    · subst same
      simp [double, readQuoted, ih]
    · cases split : double q s ++ q :: rest with
      | nil => simp at split
      | cons d more =>
        rw [split] at ih
        simp [double, same, split, readQuoted, ih]

/-- Reading stops at the first quote that stands alone, and has then read what doubling writes. -/
theorem readQuoted_eq_some_iff :
    readQuoted q cs = some (content, rest) ↔
      cs = double q content ++ q :: rest ∧ rest.head? ≠ some q := by
  constructor
  · intro read
    fun_induction readQuoted q cs generalizing content with
    | case1 => cases read
    | case2 =>
      cases read
      exact ⟨rfl, by simp⟩
    | case3 => cases read
    | case4 more ih =>
      obtain ⟨⟨inner, after⟩, found, same⟩ := Option.map_eq_some_iff.1 read
      cases same
      obtain ⟨split, ends⟩ := ih found
      exact ⟨by rw [split, double, if_pos rfl]; rfl, ends⟩
    | case5 d more other =>
      cases read
      exact ⟨rfl, by simpa using other⟩
    | case6 c d more other ih =>
      obtain ⟨⟨inner, after⟩, found, same⟩ := Option.map_eq_some_iff.1 read
      cases same
      obtain ⟨split, ends⟩ := ih found
      exact ⟨by rw [split, double, if_neg other]; rfl, ends⟩
  · rintro ⟨rfl, ends⟩
    exact readQuoted_double ends content

theorem toList_enclose (q : Char) (s : String) :
    (enclose q s).toList = q :: (double q s.toList ++ [q]) := by
  rw [enclose, String.toList_ofList, List.cons_append]

end SheetSql.Text
