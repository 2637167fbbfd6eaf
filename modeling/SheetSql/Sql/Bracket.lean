import SheetSql.Text.Blank
import SheetSql.Text.Doubled

namespace SheetSql.Text

/-!
Round brackets in SQL text. Brackets inside quotes are text; a doubled quote closes the quotes
and opens them again.
-/

/--
Reads on from an opening bracket, inside the quote `quoted` and `depth` brackets further in: the
text up to the bracket that closes it and the text after that.
-/
def readGroup (quoted : Option Char) (depth : Nat) :
    List Char → Option (List Char × List Char)
  | [] => none
  | c :: rest =>
    let keep := fun found : Option (List Char × List Char) =>
      found.map fun parts => (c :: parts.1, parts.2)
    match quoted with
    | some q => keep (readGroup (if c = q then none else some q) depth rest)
    | none =>
      if isQuote c then keep (readGroup (some c) depth rest)
      else if c = '(' then keep (readGroup none (depth + 1) rest)
      else if c = ')' then
        match depth with
        | 0 => some ([], rest)
        | depth + 1 => keep (readGroup none depth rest)
      else keep (readGroup none depth rest)

def closing? : List Char → Option Nat
  | '(' :: rest => (readGroup none 0 rest).map fun parts => parts.1.length + 1
  | _ => none

def closesAtEnd (cs : List Char) : Bool :=
  match readGroup none 0 cs with
  | some (_, []) => true
  | _ => false

def inside? : List Char → Option (List Char)
  | '(' :: rest =>
    match readGroup none 0 rest with
    | some (content, []) => some (trim content)
    | _ => none
  | _ => none

theorem length_of_readGroup {quoted : Option Char} {depth : Nat}
    {cs content rest : List Char} (h : readGroup quoted depth cs = some (content, rest)) :
    cs.length = content.length + 1 + rest.length := by
  induction cs generalizing quoted depth content with
  | nil => simp [readGroup] at h
  | cons c cs ih =>
    have step : ∀ {quoted depth},
        (readGroup quoted depth cs).map (fun parts => (c :: parts.1, parts.2)) =
          some (content, rest) → (c :: cs).length = content.length + 1 + rest.length := by
      intro quoted depth found
      obtain ⟨⟨inner, after⟩, hfound, heq⟩ := Option.map_eq_some_iff.1 found
      cases heq
      have shorter := ih hfound
      simp only [List.length_cons] at shorter ⊢
      omega
    rw [readGroup.eq_def] at h
    dsimp only at h
    split at h
    · exact step h
    · split at h
      · exact step h
      · split at h
        · exact step h
        · split at h
          · split at h
            · cases h
              simp [Nat.add_comm]
            · exact step h
          · exact step h

theorem length_of_inside? {cs content : List Char} (h : inside? cs = some content) :
    content.length < cs.length := by
  unfold inside? at h
  split at h
  · split at h
    · rename_i found
      cases h
      have := length_of_readGroup found
      have := length_trim_le ‹List Char›
      simp only [List.length_cons, List.length_nil] at *
      omega
    · cases h
  · cases h

def peel : Nat → List Char → List Char
  | 0, cs => cs
  | n + 1, cs =>
    match inside? cs with
    | some content => peel n content
    | none => cs

def bare (cs : List Char) : List Char :=
  peel cs.length (trim cs)

end SheetSql.Text
