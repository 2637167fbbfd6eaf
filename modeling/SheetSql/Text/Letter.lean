namespace SheetSql.Text

/-! Letter case and leading words. Only the ASCII letters have a case here. -/

def sameLetters (left right : List Char) : Bool :=
  left.map Char.toLower == right.map Char.toLower

def rest? (same : Char → Char → Bool) : List Char → List Char → Option (List Char)
  | [], rest => some rest
  | _ :: _, [] => none
  | p :: lead, c :: cs => if same p c then rest? same lead cs else none

def startsWith (lead cs : List Char) : Bool :=
  (rest? (· == ·) lead cs).isSome

def leads (lead cs : List Char) : Bool :=
  (rest? (fun p c => p.toLower == c.toLower) lead cs).isSome

def lowered (s : String) : String :=
  String.ofList (s.toList.map Char.toLower)

theorem length_of_rest? {same : Char → Char → Bool} {lead cs rest : List Char}
    (h : rest? same lead cs = some rest) : cs.length = lead.length + rest.length := by
  induction lead generalizing cs with
  | nil =>
    cases h
    simp
  | cons p lead ih =>
    cases cs with
    | nil => simp [rest?] at h
    | cons c cs =>
      rw [rest?] at h
      split at h
      · have := ih h
        simp only [List.length_cons]
        omega
      · exact absurd h (by simp)

end SheetSql.Text
