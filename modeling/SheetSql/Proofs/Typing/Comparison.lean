import SheetSql.Proofs.Typing.Literal

namespace SheetSql

/-! The sides of a comparison. -/

open Text Sql

def Operand.asksForText (operand : Operand) : Bool := operand.isTextLike || operand.isBlank

def Operand.equalAsMoments (left right : Operand) : Bool :=
  !(left.asksForText || right.asksForText) && (left.isDatetimeLike || right.isDatetimeLike)

theorem bind_eq_error {α β : Type} {x : Except Error α} {f : α → Except Error β} {error : Error}
    (failed : x >>= f = .error error) : x = .error error ∨ ∃ a, x = .ok a ∧ f a = .error error := by
  cases x with
  | error first =>
    cases failed
    exact .inl rfl
  | ok a => exact .inr ⟨a, rfl, failed⟩

namespace Site

def sides (coerce : Operand → Except Error Expr) (op : BinOp) (left right : Operand) :
    Except Error Expr := do
  return .binary (← coerce left) op (← coerce right)

def equalSide (site : Site) (left right : Operand) : Operand → Except Error Expr :=
  if left.asksForText || right.asksForText then site.toTextOrEmpty
  else if left.isDatetimeLike || right.isDatetimeLike then
    fun operand => .ok (site.toDatetime operand)
  else if left.kind == .boolean && right.kind == .boolean then site.toBool
  else if left.isNumberLike && right.isNumberLike then site.toNumberOrZero
  else site.toTextOrEmpty

def orderSide (site : Site) (left right : Operand) : Operand → Except Error Expr :=
  if left.isDatetimeLike || right.isDatetimeLike then
    fun operand => .ok (site.toDatetime operand)
  else if (left.isNumberLike || right.isNumberLike) && !left.isTextLike && !right.isTextLike then
    site.toNumberOrZero
  else site.toTextOrEmpty

section

variable (site : Site) (left right : Operand)

theorem equal_eq_sides (negated : Bool) :
    site.equal negated left right =
      sides (site.equalSide left right) (equalOp negated) left right := by
  unfold equal equalSide Operand.asksForText
  dsimp only
  split
  · rfl
  · split
    · rfl
    · split
      · rfl
      · split <;> rfl

theorem compare_eq_sides (op : BinOp) :
    site.compare op left right = sides (site.orderSide left right) op left right := by
  unfold compare orderSide
  split
  · rfl
  · split <;> rfl

theorem equalSide_comm : site.equalSide left right = site.equalSide right left := by
  unfold equalSide
  rw [Bool.or_comm left.asksForText, Bool.or_comm left.isDatetimeLike,
    Bool.and_comm (left.kind == .boolean), Bool.and_comm left.isNumberLike]

theorem orderSide_comm : site.orderSide left right = site.orderSide right left := by
  unfold orderSide
  rw [Bool.or_comm left.isDatetimeLike, Bool.or_comm left.isNumberLike, Bool.and_assoc,
    Bool.and_assoc, Bool.and_comm (!left.isTextLike)]

end

def Refuses (site : Site) (error : Error) : Prop :=
  site.target.placement = .generated ∧ error = .needsSubquery site.operation

section

variable {site : Site} {operand : Operand} {error : Error}

theorem refuses_needSubquery (failed : site.needSubquery = .error error) : site.Refuses error := by
  unfold needSubquery at failed
  split at failed
  · cases failed
  · next placement =>
      cases failed
      exact ⟨placement, rfl⟩

theorem refuses_toNumber (failed : site.toNumber operand = .error error) : site.Refuses error := by
  unfold toNumber at failed
  cases kind : operand.kind with
  | json =>
    rw [kind] at failed
    rcases bind_eq_error failed with failed | ⟨_, -, failed⟩
    · exact refuses_needSubquery failed
    · cases failed
  | blank | number | boolean | text | datetime | unknown =>
    rw [kind] at failed
    cases failed

theorem refuses_toNumberOrZero (failed : site.toNumberOrZero operand = .error error) :
    site.Refuses error := by
  rcases bind_eq_error failed with failed | ⟨_, -, failed⟩
  · exact refuses_toNumber failed
  · cases failed

theorem refuses_toText (failed : site.toText operand = .error error) : site.Refuses error := by
  unfold toText at failed
  cases kind : operand.kind with
  | json =>
    rw [kind] at failed
    dsimp only at failed
    split at failed
    · cases failed
    · next placement =>
        split at failed
        · cases failed
          exact ⟨placement, rfl⟩
        · cases failed
  | number =>
    rw [kind] at failed
    dsimp only at failed
    split at failed <;> cases failed
  | blank | boolean | text | datetime | unknown =>
    rw [kind] at failed
    cases failed

theorem refuses_toTextOrEmpty (failed : site.toTextOrEmpty operand = .error error) :
    site.Refuses error := by
  unfold toTextOrEmpty at failed
  split at failed
  · cases failed
  · rcases bind_eq_error failed with failed | ⟨_, -, failed⟩
    · exact refuses_toText failed
    · cases failed

theorem refuses_toBool (failed : site.toBool operand = .error error) : site.Refuses error := by
  unfold toBool at failed
  cases kind : operand.kind with
  | number =>
    rw [kind] at failed
    rcases bind_eq_error failed with failed | ⟨_, -, failed⟩
    · exact refuses_toNumberOrZero failed
    · cases failed
  | blank | boolean | text | datetime | json | unknown =>
    rw [kind] at failed
    cases failed

theorem refuses_equalSide (failed : site.equalSide left right operand = .error error) :
    site.Refuses error := by
  unfold equalSide at failed
  split at failed
  · exact refuses_toTextOrEmpty failed
  · split at failed
    · cases failed
    · split at failed
      · exact refuses_toBool failed
      · split at failed
        · exact refuses_toNumberOrZero failed
        · exact refuses_toTextOrEmpty failed

theorem refuses_orderSide (failed : site.orderSide left right operand = .error error) :
    site.Refuses error := by
  unfold orderSide at failed
  split at failed
  · cases failed
  · split at failed
    · exact refuses_toNumberOrZero failed
    · exact refuses_toTextOrEmpty failed

end

end Site

/-- Two comparisons with the same sides, or two attempts that fail alike. -/
inductive SameSides (op op' : BinOp) : Except Error Expr → Except Error Expr → Prop
  | sides (x y : Expr) : SameSides op op' (.ok (.binary x op y)) (.ok (.binary x op' y))
  | error (error : Error) : SameSides op op' (.error error) (.error error)

/-- Two comparisons of which one has the sides of the other in the other order. -/
inductive Mirrored (op op' : BinOp) : Except Error Expr → Except Error Expr → Prop
  | sides (x y : Expr) : Mirrored op op' (.ok (.binary x op y)) (.ok (.binary y op' x))
  | error (error : Error) : Mirrored op op' (.error error) (.error error)

section

variable {site : Site} {coerce : Operand → Except Error Expr}

theorem sameSides_sides (op op' : BinOp) (left right : Operand) :
    SameSides op op' (Site.sides coerce op left right) (Site.sides coerce op' left right) := by
  unfold Site.sides
  cases coerce left with
  | error first => exact .error first
  | ok x =>
    cases coerce right with
    | error second => exact .error second
    | ok y => exact .sides x y

/-- Both sides can fail, but not in two ways. -/
theorem mirrored_sides
    (refuses : ∀ {operand error}, coerce operand = .error error → site.Refuses error)
    (op op' : BinOp) (left right : Operand) :
    Mirrored op op' (Site.sides coerce op left right) (Site.sides coerce op' right left) := by
  unfold Site.sides
  cases first : coerce left with
  | error one =>
    cases second : coerce right with
    | error other =>
      -- Each order shows the error of its own first operand.
      rw [(refuses first).2, (refuses second).2]
      exact .error _
    | ok y => exact .error one
  | ok x =>
    cases second : coerce right with
    | error other => exact .error other
    | ok y => exact .sides x y

end

/-- How a blank is spelled: `NULL` in any case or an empty text, perhaps in brackets. -/
inductive SpellsBlank : List Char → Prop
  | null {word : List Char} (letters : sameLetters word "NULL".toList = true) : SpellsBlank word
  | emptyText : SpellsBlank [singleQuote, singleQuote]
  | before {c : Char} {cs : List Char} (blank : isBlank c = true) (spelled : SpellsBlank cs) :
      SpellsBlank (c :: cs)
  | after {c : Char} {cs : List Char} (blank : isBlank c = true) (spelled : SpellsBlank cs) :
      SpellsBlank (cs ++ [c])
  | brackets {cs : List Char} (spelled : SpellsBlank cs) : SpellsBlank ('(' :: cs ++ [')'])

theorem trim_cons (blank : isBlank c = true) (cs : List Char) : trim (c :: cs) = trim cs := by
  rw [trim, trimStart, List.dropWhile_cons, blank]
  rfl

theorem trim_concat (blank : isBlank c = true) (cs : List Char) : trim (cs ++ [c]) = trim cs := by
  have last : [c].dropWhile isBlank = [] := by
    rw [List.dropWhile_cons, blank]
    rfl
  rw [trim, trim, trimStart, trimStart, List.dropWhile_append, last]
  split
  · next empty =>
      rw [List.isEmpty_iff.1 empty]
  · exact List.rdropWhile_concat_pos isBlank _ c blank

theorem bare_congr (same : trim cs = trim ds) : bare cs = bare ds := by
  rw [bare_eq_peel, bare_eq_peel, same]

theorem isAlpha_toLower (c : Char) : c.toLower.isAlpha = c.isAlpha := by
  rw [Bool.eq_iff_iff, isAlpha_iff, isAlpha_iff, toNat_toLower]
  split <;> omega

theorem plain_of_isAlpha {c : Char} (letter : c.isAlpha = true) :
    isBlank c = false ∧ isQuote c = false ∧ c ≠ '(' ∧ c ≠ ')' := by
  have solid : isBlank c = false := by
    rw [← Bool.not_eq_true]
    intro blank
    have gap := isSolid_of_isBlank blank
    rw [isSolid, letter] at gap
    cases gap
  refine ⟨solid, ?_, ?_, ?_⟩
  · rw [← Bool.not_eq_true]
    intro quote
    simp only [isQuote, Bool.or_eq_true, beq_iff_eq] at quote
    rcases quote with (rfl | rfl) | rfl <;> exact absurd letter (by decide)
  · rintro rfl
    exact absurd letter (by decide)
  · rintro rfl
    exact absurd letter (by decide)

theorem isAlpha_of_sameLetters (letters : sameLetters word "NULL".toList = true) :
    ∀ c ∈ word, c.isAlpha = true := by
  intro c member
  have lowered : c.toLower ∈ word.map Char.toLower := List.mem_map_of_mem member
  rw [beq_iff_eq.1 letters] at lowered
  rw [← isAlpha_toLower]
  have known : ("NULL".toList.map Char.toLower).all Char.isAlpha = true := by rfl
  exact List.all_eq_true.1 known _ lowered

namespace SpellsBlank

variable {cs : List Char}

theorem closed (spelled : SpellsBlank cs) :
    ∃ found, outside? isQuote none cs = some found ∧ depthAfter 0 found = some 0 := by
  induction spelled with
  | null letters =>
    have plain := fun c member => (plain_of_isAlpha (isAlpha_of_sameLetters letters c member)).2
    exact ⟨_, outside?_of_plain fun c member => (plain c member).1,
      depthAfter_of_plain (fun c member => (plain c member).2) 0⟩
  | emptyText => exact ⟨_, rfl, rfl⟩
  | @before c cs blank _ ih =>
    obtain ⟨found, closed, level⟩ := ih
    refine ⟨c :: found, ?_, ?_⟩
    · rw [outside?, (plain_of_isBlank blank).1, if_neg Bool.false_ne_true, closed]
      rfl
    · rw [← List.singleton_append, depthAfter_append, depthAfter_blank blank]
      exact level
  | @after c cs blank _ ih =>
    obtain ⟨found, closed, level⟩ := ih
    have last : outside? isQuote none [c] = some [c] := by
      refine outside?_of_plain fun d member => ?_
      rw [List.mem_singleton.1 member]
      exact (plain_of_isBlank blank).1
    refine ⟨found ++ [c], ?_, ?_⟩
    · rw [outside?_append closed, last]
      rfl
    · rw [depthAfter_append, level]
      exact depthAfter_blank blank 0
  | @brackets cs _ ih =>
    obtain ⟨found, closed, level⟩ := ih
    refine ⟨'(' :: found ++ [')'], ?_, ?_⟩
    · rw [List.cons_append, outside?, if_neg (by decide), outside?_append closed]
      rfl
    · rw [List.cons_append]
      change depthAfter 1 (found ++ [')']) = some 0
      rw [depthAfter_append, depthAfter_add 1 level]
      rfl

theorem bare_cases (spelled : SpellsBlank cs) :
    sameLetters (bare cs) "NULL".toList = true ∨ bare cs = [singleQuote, singleQuote] := by
  induction spelled with
  | @null word letters =>
    have plain := fun c member => plain_of_isAlpha (isAlpha_of_sameLetters letters c member)
    have kept : bare word = word := by
      cases word with
      | nil => rfl
      | cons c rest =>
        exact bare_of_head (trim_of_solid fun d member => (plain d member).1)
          (plain c List.mem_cons_self).2.2.1
    rw [kept]
    exact .inl letters
  | emptyText => exact .inr rfl
  | before blank _ ih => rwa [bare_congr (trim_cons blank _)]
  | after blank _ ih => rwa [bare_congr (trim_concat blank _)]
  | brackets inner ih =>
    obtain ⟨found, closed, level⟩ := inner.closed
    rwa [bare_brackets closed level]

theorem literalKind? {sql : String} (spelled : SpellsBlank sql.toList) :
    literalKind? sql = some .blank := by
  unfold SheetSql.literalKind?
  rcases spelled.bare_cases with null | quotes
  · rw [isNullLiteral, null]
    rfl
  · rw [isNullLiteral, numberLiteral?, textLiteral?, quotes]
    rfl

end SpellsBlank

/-- A blank asks for texts and is the empty one, in whatever way it is spelled. -/
theorem equal_blank (site : Site) (negated : Bool) (operand : Operand) {blank : Operand}
    (isBlank : blank.kind = .blank) :
    site.equal negated operand blank = (do
      return .binary (← site.toTextOrEmpty operand) (Site.equalOp negated) (.text "")) := by
  rw [Site.equal_eq_sides]
  have asks : blank.asksForText = true := by
    rw [Operand.asksForText, Operand.isBlank, isBlank, Bool.or_comm]
    rfl
  have empty : site.toTextOrEmpty blank = .ok (.text "") := by
    rw [Site.toTextOrEmpty, Operand.isBlank, isBlank]
    rfl
  rw [Site.equalSide, asks, Bool.or_true, if_pos rfl, Site.sides, empty]
  rfl

end SheetSql
