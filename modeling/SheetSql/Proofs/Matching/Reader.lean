import SheetSql.Number.Decimal
import SheetSql.Proofs.Matching.Meaning

namespace SheetSql

/-!
Regular expressions read from their text, character by character, and the round trip: the text of
an expression whose parts do not run into each other is read as an expression that is the same.
-/

/-- The ranges of a set. A minus between two characters stands for all between them. -/
def CharRange.ofContent : List Char → List CharRange
  | first :: '-' :: last :: rest => .span first last :: ofContent rest
  | c :: rest => .one c :: ofContent rest
  | [] => []

def CharSet.ofContent : List Char → CharSet
  | '^' :: rest => .except (CharRange.ofContent rest)
  | content => .of (CharRange.ofContent content)

def CharSet.content (set : CharSet) : List Char :=
  (if set.isComplement then ['^'] else []) ++ set.ranges.flatMap (·.text)

namespace Regex

def readCount? (content : List Char) : Option (Nat × Option Nat) :=
  let least := content.takeWhile Char.isDigit
  let count := Decimal.natOf least
  if least.isEmpty then none
  else
    match content.dropWhile Char.isDigit with
    | [] => some (count, some count)
    | c :: most =>
      if c = ',' && Decimal.isDigits most then
        some (count, if most.isEmpty then none else some (Decimal.natOf most))
      else none

structure Level where
  earlier : List Regex
  parts : List Regex
  isOpen : Bool
  deriving DecidableEq, Repr

namespace Level

def start : Level := ⟨[], [], false⟩

def branch (level : Level) : Regex := seqAll level.parts.reverse

def regex (level : Level) : Regex := altAll (level.branch :: level.earlier).reverse

def add (level : Level) (part : Regex) : Level :=
  { level with parts := part :: level.parts, isOpen := true }

def addFixed (level : Level) (part : Regex) : Level :=
  { level with parts := part :: level.parts, isOpen := false }

def bar (level : Level) : Level := ⟨level.branch :: level.earlier, [], false⟩

def repeated? (level : Level) (least : Nat) (most : Option Nat) : Option Level :=
  match level.parts, level.isOpen with
  | part :: rest, true =>
    some { level with parts := part.rep least most :: rest, isOpen := false }
  | _, _ => none

end Level

inductive Place where
  | plain
  | escaped
  | marked
  /-- In square brackets, after these characters, the last one first. -/
  | inSet (content : List Char)
  | inCount (content : List Char)
  deriving DecidableEq, Repr

structure ReadState where
  place : Place
  level : Level
  /-- The open groups, the innermost first: whether each captures, and what is before it. -/
  outside : List (Bool × Level)
  deriving DecidableEq, Repr

namespace ReadState

def start : ReadState := ⟨.plain, .start, []⟩

def add (state : ReadState) (part : Regex) : ReadState :=
  ⟨.plain, state.level.add part, state.outside⟩

def repeated? (state : ReadState) (least : Nat) (most : Option Nat) : Option ReadState :=
  (state.level.repeated? least most).map fun level => ⟨.plain, level, state.outside⟩

def close? (state : ReadState) : Option ReadState :=
  match state.outside with
  | [] => none
  | (captures, before) :: outside =>
    some ⟨.plain, before.add (.group captures state.level.regex), outside⟩

/-- A question mark: the last part may be missing, or a group that has just begun is no capture. -/
def question? (state : ReadState) : Option ReadState :=
  if state.level = .start then
    match state.outside with
    | (true, before) :: outside => some ⟨.marked, .start, (false, before) :: outside⟩
    | _ => none
  else state.repeated? 0 (some 1)

def stepPlain (state : ReadState) (c : Char) : Option ReadState :=
  match c with
  | '\\' => some { state with place := .escaped }
  | '[' => some { state with place := .inSet [] }
  | '\x7b' => some { state with place := .inCount [] }
  | '(' => some ⟨.plain, .start, (true, state.level) :: state.outside⟩
  | ')' => state.close?
  | '|' => some { state with level := state.level.bar }
  | '?' => state.question?
  | '*' => state.repeated? 0 none
  | '+' => state.repeated? 1 none
  | '^' => some { state with level := state.level.addFixed .start }
  | '$' => some { state with level := state.level.addFixed .finish }
  | '.' => some (state.add .anyChar)
  | ']' => none
  | '\x7d' => none
  | c => some (state.add (.char c))

/-- After a backslash a letter or digit stands for a class, and anything else for itself. -/
def stepEscaped (state : ReadState) (c : Char) : Option ReadState :=
  if c = 'd' then some (state.add .digit)
  else if c = 's' then some (state.add .blank)
  else if c.isAlphanum then none
  else some (state.add (.char c))

def stepSet (state : ReadState) (content : List Char) (c : Char) : Option ReadState :=
  if c = '[' ∨ c = '\\' then none
  else if c = ']' then
    if content.isEmpty then none else some (state.add (.set (.ofContent content.reverse)))
  else some { state with place := .inSet (c :: content) }

def stepCount (state : ReadState) (content : List Char) (c : Char) : Option ReadState :=
  if c = '\x7d' then
    (readCount? content.reverse).bind fun count => state.repeated? count.1 count.2
  else some { state with place := .inCount (c :: content) }

def step (state : ReadState) (c : Char) : Option ReadState :=
  match state.place with
  | .plain => state.stepPlain c
  | .escaped => state.stepEscaped c
  | .marked => if c = ':' then some { state with place := .plain } else none
  | .inSet content => state.stepSet content c
  | .inCount content => state.stepCount content c

def read (state : ReadState) (cs : List Char) : Option ReadState := cs.foldlM step state

def regex? (state : ReadState) : Option Regex :=
  if state.place = .plain ∧ state.outside = [] then some state.level.regex else none

end ReadState

def ofText? (text : String) : Option Regex :=
  (ReadState.start.read text.toList).bind ReadState.regex?

def isClearSet (members : CharSet) : Bool :=
  !members.content.isEmpty && members.content.all (fun c => c != '[' && c != ']' && c != '\\') &&
    CharSet.ofContent members.content == members

inductive Rank where
  | atom
  | branch
  | whole
  deriving DecidableEq, Repr

def fits : Regex → Rank → Bool
  | .empty, rank | .start, rank | .finish, rank => rank != .atom
  | .char _, _ | .anyChar, _ | .digit, _ | .blank, _ => true
  | .set members, _ => isClearSet members
  | .seq first second, rank => rank != .atom && first.fits .branch && second.fits .branch
  | .alt left right, rank => rank == .whole && left.fits .whole && right.fits .whole
  | .group _ inner, _ => inner.fits .whole
  | .rep inner _ _, rank => rank != .atom && inner.fits .atom

theorem isDigit_toDigits (member : c ∈ Nat.toDigits 10 n) : c.isDigit = true :=
  Nat.isDigit_of_mem_toDigits (by decide) (by decide) member

theorem natOf_toDigits (n : Nat) : Decimal.natOf (Nat.toDigits 10 n) = n :=
  Nat.ofDigitChars_toDigits (by decide) (by decide)

theorem isEmpty_toDigits (n : Nat) : (Nat.toDigits 10 n).isEmpty = false :=
  List.isEmpty_eq_false_iff.2 Nat.toDigits_ne_nil

/-- What follows the digits of a number between braces: nothing, a comma, or a greater number. -/
def countTail : Option (Option Nat) → List Char
  | none => []
  | some none => [',']
  | some (some most) => ',' :: Nat.toDigits 10 most

theorem readCount?_content (least : Nat) (most : Option (Option Nat)) :
    readCount? (Nat.toDigits 10 least ++ countTail most) =
      some (least, most.getD (some least)) := by
  have head : (Nat.toDigits 10 least ++ countTail most).takeWhile Char.isDigit =
      Nat.toDigits 10 least := by
    rw [List.takeWhile_append_of_pos fun c => isDigit_toDigits]
    cases most with
    | none => exact List.append_nil _
    | some most => cases most <;> exact List.append_nil _
  have tail : (Nat.toDigits 10 least ++ countTail most).dropWhile Char.isDigit =
      countTail most := by
    rw [List.dropWhile_append_of_pos fun c => isDigit_toDigits]
    cases most with
    | none => rfl
    | some most => cases most <;> rfl
  rw [readCount?, head, tail, natOf_toDigits, isEmpty_toDigits]
  cases most with
  | none => rfl
  | some most =>
    cases most with
    | none => rfl
    | some most =>
      have digits : Decimal.isDigits (Nat.toDigits 10 most) = true :=
        List.all_eq_true.2 fun c => isDigit_toDigits
      simp [countTail, digits, natOf_toDigits, Nat.toDigits_ne_nil]

namespace ReadState

theorem read_cons (state : ReadState) (c : Char) (cs : List Char) :
    state.read (c :: cs) = (state.step c).bind fun next => next.read cs := rfl

theorem read_append {state : ReadState} (reads : state.read cs = some next) (rest : List Char) :
    state.read (cs ++ rest) = next.read rest := by
  rw [read, List.foldlM_append, show cs.foldlM step state = some next from reads]
  rfl

section

variable (level : Level) (outside : List (Bool × Level))

theorem read_inCount (inside : '\x7d' ∉ content) (before rest : List Char) :
    (ReadState.mk (.inCount before) level outside).read (content ++ rest) =
      (ReadState.mk (.inCount (content.reverse ++ before)) level outside).read rest := by
  induction content generalizing before with
  | nil => rfl
  | cons c content ih =>
    have other : c ≠ '\x7d' := fun same => inside (same ▸ List.mem_cons_self)
    have steps : (ReadState.mk (.inCount before) level outside).step c =
        some ⟨.inCount (c :: before), level, outside⟩ := if_neg other
    rw [List.cons_append, read_cons, steps, Option.bind_some,
      ih fun member => inside (List.mem_cons_of_mem c member), List.reverse_cons,
      List.append_assoc, List.singleton_append]

theorem read_inSet (inside : ∀ c ∈ content, c ≠ '[' ∧ c ≠ ']' ∧ c ≠ '\\') (before rest : List Char)
    : (ReadState.mk (.inSet before) level outside).read (content ++ rest) =
      (ReadState.mk (.inSet (content.reverse ++ before)) level outside).read rest := by
  induction content generalizing before with
  | nil => rfl
  | cons c content ih =>
    obtain ⟨opens, closes, escapes⟩ := inside c List.mem_cons_self
    have other : ¬(c = '[' ∨ c = '\\') := by
      rintro (same | same)
      · exact opens same
      · exact escapes same
    have steps : (ReadState.mk (.inSet before) level outside).step c =
        some ⟨.inSet (c :: before), level, outside⟩ := (if_neg other).trans (if_neg closes)
    rw [List.cons_append, read_cons, steps, Option.bind_some,
      ih fun x member => inside x (List.mem_cons_of_mem c member), List.reverse_cons,
      List.append_assoc, List.singleton_append]

theorem read_braces (least : Nat) (most : Option (Option Nat)) :
    (ReadState.mk .plain level outside).read
        ('\x7b' :: Nat.toDigits 10 least ++ countTail most ++ ['\x7d']) =
      (ReadState.mk .plain level outside).repeated? least (most.getD (some least)) := by
  have inside : '\x7d' ∉ Nat.toDigits 10 least ++ countTail most := by
    intro member
    rcases List.mem_append.1 member with first | tail
    · exact absurd (isDigit_toDigits first) (by decide)
    · cases most with
      | none => cases tail
      | some most =>
        cases most with
        | none => exact absurd tail (by decide)
        | some most =>
          rcases List.mem_cons.1 tail with comma | second
          · exact absurd comma (by decide)
          · exact absurd (isDigit_toDigits second) (by decide)
  have content := readCount?_content least most
  rw [← List.reverse_reverse (Nat.toDigits 10 least ++ countTail most)] at content
  calc
    _ = (ReadState.mk (.inCount []) level outside).read
        (Nat.toDigits 10 least ++ countTail most ++ ['\x7d']) := rfl
    _ = (ReadState.mk (.inCount (Nat.toDigits 10 least ++ countTail most).reverse) level
        outside).read ['\x7d'] := by
      rw [read_inCount level outside inside [] ['\x7d'], List.append_nil]
    _ = ((readCount? (Nat.toDigits 10 least ++ countTail most).reverse.reverse).bind fun count =>
        (ReadState.mk .plain level outside).repeated? count.1 count.2).bind some := rfl
    _ = _ := by
      rw [content, Option.bind_some, Option.bind_fun_some]

theorem read_countText (part : Regex) (least : Nat) (most : Option Nat) :
    (ReadState.mk .plain (level.add part) outside).read (countText least most) =
      some ⟨.plain, level.addFixed (part.rep least most), outside⟩ := by
  have more : level.add part ≠ .start := by
    intro same
    cases congrArg Level.parts same
  unfold countText
  split
  · have steps : (ReadState.mk .plain (level.add part) outside).step '?' =
        some ⟨.plain, level.addFixed (part.rep 0 (some 1)), outside⟩ := if_neg more
    rw [read_cons, steps]
    rfl
  · rfl
  · rfl
  · have text : '\x7b' :: Nat.toDigits 10 least ++ [',', '\x7d'] =
        '\x7b' :: Nat.toDigits 10 least ++ countTail (some none) ++ ['\x7d'] := by
      simp [countTail]
    rw [text]
    exact read_braces _ outside least (some none)
  · next most _ =>
      split
      · next same =>
          subst same
          have text : '\x7b' :: Nat.toDigits 10 least ++ ['\x7d'] =
              '\x7b' :: Nat.toDigits 10 least ++ countTail none ++ ['\x7d'] := by
            simp [countTail]
          rw [text]
          exact read_braces _ outside least none
      · have text : '\x7b' :: Nat.toDigits 10 least ++ ',' :: Nat.toDigits 10 most ++ ['\x7d'] =
            '\x7b' :: Nat.toDigits 10 least ++ countTail (some (some most)) ++ ['\x7d'] := rfl
        rw [text]
        exact read_braces _ outside least (some (some most))

theorem read_char (c : Char) :
    (ReadState.mk .plain level outside).read (Regex.char c).chars =
      some ⟨.plain, level.add (.char c), outside⟩ := by
  rw [chars]
  split
  · next isSpecial =>
      simp only [isMeta, List.contains_eq_mem, decide_eq_true_eq] at isSpecial
      have steps : (ReadState.mk .escaped level outside).step c =
          some ⟨.plain, level.add (.char c), outside⟩ := by
        have apart : (".^$|?*+()[]\x7b\x7d\\".toList.all fun x =>
            x != 'd' && x != 's' && !x.isAlphanum) = true := by rfl
        have other := List.all_eq_true.1 apart c isSpecial
        simp only [Bool.and_eq_true, bne_iff_ne, Bool.not_eq_true'] at other
        obtain ⟨⟨noDigit, noBlank⟩, noClass⟩ := other
        rw [step]
        dsimp only
        rw [stepEscaped, if_neg noDigit, if_neg noBlank, noClass]
        rfl
      calc
        _ = (ReadState.mk .escaped level outside).read [c] := rfl
        _ = _ := by
          rw [read_cons, steps]
          rfl
  · next isPlain =>
      have steps : (ReadState.mk .plain level outside).step c =
          some ⟨.plain, level.add (.char c), outside⟩ := by
        rw [step]
        dsimp only
        unfold stepPlain
        -- A character that is not special is left to the last case.
        split
        any_goals exact absurd rfl isPlain
        rfl
      rw [read_cons, steps]
      rfl

theorem read_set {members : CharSet} (clear : isClearSet members = true) :
    (ReadState.mk .plain level outside).read members.text =
      some ⟨.plain, level.add (.set members), outside⟩ := by
  simp only [isClearSet, Bool.and_eq_true, Bool.not_eq_true', List.all_eq_true, bne_iff_ne,
    beq_iff_eq] at clear
  obtain ⟨⟨filled, inside⟩, means⟩ := clear
  have text : members.text = '[' :: (members.content ++ [']']) := by
    simp [CharSet.text, CharSet.content]
  have inside : ∀ c ∈ members.content, c ≠ '[' ∧ c ≠ ']' ∧ c ≠ '\\' := by
    intro c member
    obtain ⟨⟨opens, closes⟩, escapes⟩ := inside c member
    exact ⟨opens, closes, escapes⟩
  rw [text]
  calc
    _ = (ReadState.mk (.inSet []) level outside).read (members.content ++ [']']) := rfl
    _ = (ReadState.mk (.inSet members.content.reverse) level outside).read [']'] := by
      rw [read_inSet level outside inside [] [']'], List.append_nil]
    _ = some ⟨.plain, level.add (.set members), outside⟩ := by
      have steps : (ReadState.mk (.inSet members.content.reverse) level outside).step ']' =
          some ⟨.plain, level.add (.set members), outside⟩ := by
        rw [step]
        dsimp only
        rw [stepSet, if_neg (by decide), if_pos rfl, List.isEmpty_reverse, filled,
          List.reverse_reverse, means]
        rfl
      rw [read_cons, steps]
      rfl

end

end ReadState

section

variable (blank : Char → Bool)

structure Level.Extends (level : Level) (r : Regex) (level' : Level) : Prop where
  earlier : level'.earlier = level.earlier
  branch : Same blank level'.branch (.seq level.branch r)

variable {blank}

theorem Level.branch_cons (level : Level) (part : Regex) (isOpen : Bool) :
    Same blank (Level.mk level.earlier (part :: level.parts) isOpen).branch
      (.seq level.branch part) := by
  rw [Level.branch, List.reverse_cons]
  exact Same.seqAll_concat level.parts.reverse part

theorem Level.extends_add (level : Level) (same : Same blank part r) :
    level.Extends blank r (level.add part) :=
  ⟨rfl, (level.branch_cons part true).trans ((Same.refl _).seq same)⟩

theorem Level.extends_addFixed (level : Level) (same : Same blank part r) :
    level.Extends blank r (level.addFixed part) :=
  ⟨rfl, (level.branch_cons part false).trans ((Same.refl _).seq same)⟩

theorem Level.extends_empty (level : Level) : level.Extends blank .empty level :=
  ⟨rfl, (Same.seq_empty level.branch).symm⟩

theorem Level.Extends.trans {level : Level} (first : level.Extends blank a next)
    (second : next.Extends blank b last) : level.Extends blank (.seq a b) last := by
  refine ⟨second.earlier.trans first.earlier, ?_⟩
  exact second.branch.trans ((first.branch.seq (Same.refl b)).trans (Same.seq_assoc _ _ _))

/-- The last of some alternatives after the others, which are given from last to first. -/
def altLast (earlier : List Regex) (last : Regex) : Regex := altAll (last :: earlier).reverse

theorem altLast_congr (earlier : List Regex) (same : Same blank r r') :
    Same blank (altLast earlier r) (altLast earlier r') := by
  unfold altLast
  rw [List.reverse_cons, List.reverse_cons]
  cases earlier.reverse with
  | nil => exact same
  | cons first others =>
    exact (Same.altAll_concat first others r).trans
      (((Same.refl _).alt same).trans (Same.altAll_concat first others r').symm)

theorem altLast_cons (other : Regex) (earlier : List Regex) (last : Regex) :
    Same blank (altLast (other :: earlier) last) (.alt (altLast earlier other) last) := by
  unfold altLast
  rw [List.reverse_cons]
  cases filled : (other :: earlier).reverse with
  | nil => cases List.reverse_eq_nil_iff.1 filled
  | cons first others => exact Same.altAll_concat first others last

theorem alt_altLast (earlier : List Regex) (left right : Regex) :
    Same blank (.alt (altLast earlier left) right) (altLast earlier (.alt left right)) := by
  unfold altLast
  rw [List.reverse_cons, List.reverse_cons]
  cases earlier.reverse with
  | nil => exact .refl _
  | cons first others =>
    exact ((Same.altAll_concat first others left).alt (Same.refl right)).trans
      ((Same.alt_assoc _ _ _).trans (Same.altAll_concat first others (.alt left right)).symm)

variable (blank) in
/-- An expression that is read back from its text where something of this rank can stand. -/
def ReadsBack (r : Regex) : Rank → Prop
  | .atom => ∀ level outside, ∃ part, Same blank part r ∧
      (ReadState.mk .plain level outside).read r.chars = some ⟨.plain, level.add part, outside⟩
  | .branch => ∀ level outside, ∃ next : Level, level.Extends blank r next ∧
      (ReadState.mk .plain level outside).read r.chars = some ⟨.plain, next, outside⟩
  | .whole => ∀ earlier outside, ∃ next : Level, Same blank next.regex (altLast earlier r) ∧
      (ReadState.mk .plain ⟨earlier, [], false⟩ outside).read r.chars =
        some ⟨.plain, next, outside⟩

theorem ReadsBack.whole {r : Regex} (reads : r.ReadsBack blank .branch) :
    r.ReadsBack blank .whole := by
  intro earlier outside
  obtain ⟨next, grown, reads⟩ := reads ⟨earlier, [], false⟩ outside
  refine ⟨next, ?_, reads⟩
  have branch : Same blank next.branch r := grown.branch.trans (Same.empty_seq r)
  have regex : next.regex = altLast earlier next.branch := by
    rw [Level.regex, grown.earlier]
    rfl
  rw [regex]
  exact altLast_congr earlier branch

theorem ReadsBack.ofBranch {r : Regex} (reads : r.ReadsBack blank .branch)
    (lower : (rank != .atom) = true) : r.ReadsBack blank rank := by
  cases rank with
  | atom => cases lower
  | branch => exact reads
  | whole => exact reads.whole

theorem ReadsBack.ofAtom {r : Regex} (reads : r.ReadsBack blank .atom) (rank : Rank) :
    r.ReadsBack blank rank := by
  have branch : r.ReadsBack blank .branch := by
    intro level outside
    obtain ⟨part, same, reads⟩ := reads level outside
    exact ⟨level.add part, level.extends_add same, reads⟩
  cases rank with
  | atom => exact reads
  | branch => exact branch
  | whole => exact branch.whole

theorem readsBack_seq {first second : Regex} (readsFirst : first.ReadsBack blank .branch)
    (readsSecond : second.ReadsBack blank .branch) :
    (Regex.seq first second).ReadsBack blank .branch := by
  intro level outside
  obtain ⟨middle, grown, reads⟩ := readsFirst level outside
  obtain ⟨last, grownMore, readsMore⟩ := readsSecond middle outside
  refine ⟨last, grown.trans grownMore, ?_⟩
  rw [chars, ReadState.read_append reads, readsMore]

theorem readsBack_alt {left right : Regex} (readsLeft : left.ReadsBack blank .whole)
    (readsRight : right.ReadsBack blank .whole) :
    (Regex.alt left right).ReadsBack blank .whole := by
  intro earlier outside
  obtain ⟨middle, same, reads⟩ := readsLeft earlier outside
  -- The bar puts the left side among the earlier alternatives, and the right side starts anew.
  obtain ⟨last, sameMore, readsMore⟩ := readsRight (middle.branch :: middle.earlier) outside
  refine ⟨last, ?_, ?_⟩
  · exact sameMore.trans ((altLast_cons _ _ right).trans
      ((same.alt (Same.refl right)).trans (alt_altLast earlier left right)))
  · rw [chars, ReadState.read_append reads]
    exact readsMore

theorem readsBack_group (captures : Bool) {inner : Regex}
    (readsInner : inner.ReadsBack blank .whole) :
    (Regex.group captures inner).ReadsBack blank .atom := by
  intro level outside
  obtain ⟨next, same, reads⟩ := readsInner [] ((captures, level) :: outside)
  refine ⟨.group captures next.regex, same.group captures, ?_⟩
  have closes : (ReadState.mk .plain .start ((captures, level) :: outside)).read
      (inner.chars ++ [')']) = some ⟨.plain, level.add (.group captures next.regex), outside⟩ :=
    ReadState.read_append reads [')']
  cases captures with
  | false => exact closes
  | true => exact closes

theorem readsBack_rep {inner : Regex} (readsInner : inner.ReadsBack blank .atom) (least : Nat)
    (most : Option Nat) : (Regex.rep inner least most).ReadsBack blank .branch := by
  intro level outside
  obtain ⟨part, same, reads⟩ := readsInner level outside
  refine ⟨level.addFixed (part.rep least most), level.extends_addFixed (same.rep least most), ?_⟩
  rw [chars, ReadState.read_append reads, ReadState.read_countText]

variable (blank)

/-- An expression is read back wherever it can stand without more brackets. -/
theorem readsBack_of_fits {r : Regex} (stands : r.fits rank = true) : r.ReadsBack blank rank := by
  -- The rank varies, since the parts of an expression stand elsewhere than the whole.
  induction r generalizing rank with
  | empty =>
    refine ReadsBack.ofBranch (fun level outside => ?_) stands
    exact ⟨level, level.extends_empty, rfl⟩
  | start =>
    refine ReadsBack.ofBranch (fun level outside => ?_) stands
    exact ⟨_, level.extends_addFixed (Same.refl _), rfl⟩
  | finish =>
    refine ReadsBack.ofBranch (fun level outside => ?_) stands
    exact ⟨_, level.extends_addFixed (Same.refl _), rfl⟩
  | char c =>
    refine ReadsBack.ofAtom (fun level outside => ?_) rank
    exact ⟨_, Same.refl _, ReadState.read_char level outside c⟩
  | anyChar => exact ReadsBack.ofAtom (fun level outside => ⟨_, Same.refl _, rfl⟩) rank
  | digit => exact ReadsBack.ofAtom (fun level outside => ⟨_, Same.refl _, rfl⟩) rank
  | blank => exact ReadsBack.ofAtom (fun level outside => ⟨_, Same.refl _, rfl⟩) rank
  | set members =>
    refine ReadsBack.ofAtom (fun level outside => ?_) rank
    exact ⟨_, Same.refl _, ReadState.read_set level outside stands⟩
  | seq first second ihFirst ihSecond =>
    simp only [fits, Bool.and_eq_true] at stands
    obtain ⟨⟨lower, firstStands⟩, secondStands⟩ := stands
    exact (readsBack_seq (ihFirst firstStands) (ihSecond secondStands)).ofBranch lower
  | alt left right ihLeft ihRight =>
    simp only [fits, Bool.and_eq_true, beq_iff_eq] at stands
    obtain ⟨⟨rfl, leftStands⟩, rightStands⟩ := stands
    exact readsBack_alt (ihLeft leftStands) (ihRight rightStands)
  | group captures inner ih => exact (readsBack_group captures (ih stands)).ofAtom rank
  | rep inner least most ih =>
    simp only [fits, Bool.and_eq_true] at stands
    exact (readsBack_rep (ih stands.2) least most).ofBranch stands.1

/-- The text of an expression that needs no more brackets spells the same expression. -/
theorem ofText?_text {r : Regex} (stands : r.fits .whole = true) :
    ∃ r', ofText? r.text = some r' ∧ Same blank r' r := by
  obtain ⟨next, same, reads⟩ := readsBack_of_fits blank stands [] []
  refine ⟨next.regex, ?_, same⟩
  have whole : ReadState.start.read r.chars = some ⟨.plain, next, []⟩ := reads
  rw [ofText?, text, String.toList_ofList, whole]
  rfl

end

end Regex

end SheetSql
