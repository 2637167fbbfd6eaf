import SheetSql.Format.Layout
import SheetSql.Format.Template
import SheetSql.Proofs.Lexical.Outside

namespace SheetSql

/-! Words at the start of a text. -/

namespace Text

theorem leads_cons (p c : Char) (lead cs : List Char) :
    leads (p :: lead) (c :: cs) = (p.toLower == c.toLower && leads lead cs) := by
  unfold leads
  rw [rest?]
  cases p.toLower == c.toLower with
  | false => rfl
  | true => rfl

theorem leads_append (start : leads (first ++ second) cs = true) :
    leads second (cs.drop first.length) = true := by
  induction first generalizing cs with
  | nil => exact start
  | cons p first ih =>
    cases cs with
    | nil => cases start
    | cons c cs =>
      rw [List.cons_append, leads_cons, Bool.and_eq_true] at start
      exact ih start.2

def agree (one other : List Char) : Bool :=
  (one.zip other).all fun pair => pair.1.toLower == pair.2.toLower

theorem agree_of_leads (first : leads one cs = true) (second : leads other cs = true) :
    agree one other = true := by
  induction cs generalizing one other with
  | nil =>
    cases one with
    | nil => rfl
    | cons p one => cases first
  | cons c cs ih =>
    cases one with
    | nil => rfl
    | cons p one =>
      cases other with
      | nil => rfl
      | cons q other =>
        rw [leads_cons, Bool.and_eq_true] at first second
        have same : p.toLower = q.toLower :=
          (eq_of_beq first.1).trans (eq_of_beq second.1).symm
        have rest := ih first.2 second.2
        rw [agree, List.zip_cons_cons, List.all_cons, same, beq_self_eq_true, Bool.true_and]
        exact rest

theorem not_isAlpha_of_not_isAlphanum {c : Char} (other : c.isAlphanum = false) :
    c.isAlpha = false :=
  (Bool.or_eq_false_iff.1 other).1

theorem toLower_of_not_isAlphanum {c : Char} (other : c.isAlphanum = false) : c.toLower = c := by
  have noLetter := not_isAlpha_of_not_isAlphanum other
  rw [← Char.toNat_inj, Sql.toNat_toLower, if_neg]
  intro upper
  rw [(Sql.isAlpha_iff c).2 (.inl upper)] at noLetter
  cases noLetter

theorem leads_of_not_isAlphanum {p c : Char} (letter : p.toLower.isAlpha = true)
    (other : c.isAlphanum = false) (lead cs : List Char) :
    leads (p :: lead) (c :: cs) = false := by
  rw [leads_cons, toLower_of_not_isAlphanum other]
  cases same : p.toLower == c with
  | false => rfl
  | true =>
    have noLetter := not_isAlpha_of_not_isAlphanum other
    rw [← eq_of_beq same, letter] at noLetter
    cases noLetter

end Text

namespace Format

open Regex

def otherWords : List String := modifiers ++ ["TZH", "TZM", "TZ"] ++ isoWords

theorem readPiece_of_apart {c : Char} {rest : List Char}
    (apart : ∀ word ∈ otherWords, Text.leads word.toList (c :: rest) = false) :
    readPiece (c :: rest) =
      .ok ((tokens.find? fun token => Text.leads token.word.toList (c :: rest)).elim
        (some (if Text.isBlank c then .blank else .literal c), 0)
        fun token => (some (.field token), token.word.length - 1)) := by
  have noModifier : (modifiers.find? fun word => Text.leads word.toList (c :: rest)) = none := by
    refine List.find?_eq_none.2 fun word member => ?_
    rw [apart word (by simp [otherWords, member])]
    decide
  have noIso : (isoWords.any fun word => Text.leads word.toList (c :: rest)) = false := by
    refine List.any_eq_false.2 fun word member => ?_
    rw [apart word (by simp [otherWords, member])]
    decide
  have readable : unreadable? (c :: rest) = none := by
    simp only [unreadable?, apart "TZH" (by simp [otherWords]),
      apart "TZM" (by simp [otherWords]), apart "TZ" (by simp [otherWords]), noIso]
    rfl
  rw [readPiece]
  simp only [noModifier, readable]
  cases tokens.find? fun token => Text.leads token.word.toList (c :: rest) with
  | none => rfl
  | some token => rfl

theorem leads_word_of_not_isAlphanum
    (known : word ∈ DatePart.all.map DatePart.word ++ otherWords ++ tokens.map Token.word)
    {c : Char} (other : c.isAlphanum = false) (rest : List Char) :
    Text.leads word.toList (c :: rest) = false := by
  have table : ((DatePart.all.map DatePart.word ++ otherWords ++ tokens.map Token.word).all
      fun word => word.toList.head?.any fun p => p.toLower.isAlpha) = true := by decide +kernel
  have starts := List.all_eq_true.1 table word known
  cases letters : word.toList with
  | nil =>
    rw [letters] at starts
    cases starts
  | cons p lead =>
    rw [letters] at starts
    exact Text.leads_of_not_isAlphanum starts other lead rest

theorem readCell_of_not_isAlphanum {c : Char} (other : c.isAlphanum = false) (rest : List Char) :
    readCell (c :: rest) =
      if 128 ≤ c.toNat then .error .notAscii else .ok (some (.literal c), 0) := by
  have none : (DatePart.all.find? fun part => Text.leads part.word.toList (c :: rest)) = none := by
    refine List.find?_eq_none.2 fun part member => ?_
    have known := List.mem_map_of_mem (f := DatePart.word) member
    rw [leads_word_of_not_isAlphanum (List.mem_append_left _ (List.mem_append_left _ known)) other
      rest]
    decide
  rw [readCell, none]
  simp only [other, if_neg Bool.false_ne_true]

theorem readPiece_of_not_isAlphanum {c : Char} (other : c.isAlphanum = false) (rest : List Char) :
    readPiece (c :: rest) = .ok (some (if Text.isBlank c then .blank else .literal c), 0) := by
  have noToken : (tokens.find? fun token => Text.leads token.word.toList (c :: rest)) = none := by
    refine List.find?_eq_none.2 fun token member => ?_
    have known := List.mem_map_of_mem (f := Token.word) member
    rw [leads_word_of_not_isAlphanum (List.mem_append_right _ known) other rest]
    decide
  rw [readPiece_of_apart, noToken]
  · rfl
  · intro word member
    exact leads_word_of_not_isAlphanum
      (List.mem_append_left _ (List.mem_append_right _ member)) other rest

def numberToken : DatePart → Token
  | .year => .number "YYYY" (digit.times 4) (some .year) (some .year)
  | .month => .number "MM" twelve (some .month) (some .month)
  | .day => .number "DD" dayOfMonth (some .day) (some .day)
  | .hour => .number "HH24" hourOfDay (some .hour) (some .hour)
  | .minute => .number "MI" sixty (some .minute) (some .minute)
  | .second => .number "SS" sixty (some .second) (some .second)
  | .millisecond => .number "MS" (digits 1 3) none (some .millisecond)

def longerWords : DatePart → List String
  | .day => ["DDD"]
  | .second => ["SSSSS", "SSSS"]
  | _ => []

theorem word_numberToken (part : DatePart) : (numberToken part).word = part.word := by
  cases part <;> rfl

/-- The words before that of a part are longer or do not agree with it. -/
theorem tokens_eq (part : DatePart) :
    ∃ before after, tokens = before ++ numberToken part :: after ∧
      ∀ token ∈ before, token.word ∈ longerWords part ∨
        Text.agree token.word.toList part.word.toList = false := by
  let other := fun token : Token => token.word != part.word
  have table : (tokens.dropWhile other).head? = some (numberToken part) ∧
      ((tokens.takeWhile other).all fun token => (longerWords part).contains token.word ||
        !Text.agree token.word.toList part.word.toList) = true := by
    cases part <;> exact ⟨rfl, rfl⟩
  obtain ⟨after, rest⟩ := List.head?_eq_some_iff.1 table.1
  refine ⟨tokens.takeWhile other, after, ?_, ?_⟩
  · rw [← rest, List.takeWhile_append_dropWhile]
  · intro token member
    have row := List.all_eq_true.1 table.2 token member
    simpa using row

theorem readPiece_of_leads {part : DatePart}
    (leads : Text.leads part.word.toList (c :: rest) = true)
    (longest : ∀ word ∈ longerWords part, Text.leads word.toList (c :: rest) = false) :
    readPiece (c :: rest) = .ok (some (.field (numberToken part)), part.word.length - 1) := by
  have disagree : ∀ {word : String}, Text.agree word.toList part.word.toList = false →
      Text.leads word.toList (c :: rest) = false := by
    intro word apart
    refine Bool.eq_false_iff.2 fun starts => ?_
    rw [Text.agree_of_leads starts leads] at apart
    cases apart
  have found : (tokens.find? fun token => Text.leads token.word.toList (c :: rest)) =
      some (numberToken part) := by
    obtain ⟨before, after, split, earlier⟩ := tokens_eq part
    refine List.find?_eq_some_iff_append.2 ⟨?_, before, after, split, ?_⟩
    · rw [word_numberToken]
      exact leads
    · intro token member
      rcases earlier token member with longer | apart
      · rw [longest _ longer]
        rfl
      · rw [disagree apart]
        rfl
  rw [readPiece_of_apart, found]
  · rw [Option.elim, word_numberToken]
  · intro word member
    have table : (otherWords.all fun word => !Text.agree word.toList part.word.toList) = true := by
      cases part <;> rfl
    exact disagree (by simpa using List.all_eq_true.1 table word member)

theorem readCell_eq_ok (read : readCell (c :: rest) = .ok (cell, more)) :
    (∃ part : DatePart, Text.leads part.word.toList (c :: rest) = true ∧
        cell = some (.digits part) ∧ more = part.word.length - 1) ∨
      (c.isAlphanum = false ∧ c.toNat < 128 ∧ cell = some (.literal c) ∧ more = 0) := by
  rw [readCell] at read
  split at read
  · next part found =>
      cases read
      have starts := List.find?_some found
      exact .inl ⟨part, starts, rfl, rfl⟩
  · split at read
    · cases read
    · next other =>
        split at read
        · cases read
        · next ascii =>
            cases read
            exact .inr ⟨Bool.eq_false_iff.2 other, Nat.lt_of_not_le ascii, rfl, rfl⟩

end Format

end SheetSql
