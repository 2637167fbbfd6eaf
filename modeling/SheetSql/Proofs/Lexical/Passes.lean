import SheetSql.Proofs.Lexical.Outside
import SheetSql.Text.Joined

namespace SheetSql.Sql

open Text

/-! Texts that keep to the rules outside quotes, and how they are put together. -/

/-- The words that may not stand outside quotes, `SELECT` only where there are no queries. -/
def banned (queries : Bool) : List String :=
  "--" :: "/*" :: if queries then [] else ["SELECT"]

/--
The quotes of a text are closed, outside of them no banned word stands, and its brackets lead from
`before` open ones to `after`.
-/
def Passes (queries : Bool) (s : String) (before after : Nat) : Prop :=
  ∃ found, outside? isSqlQuote none s.toList = some found ∧
    depthAfter before found = some after ∧
    ∀ word ∈ banned queries, occurs word found = false

def startsApart (s : String) : Bool := s.toList.head?.any fun c => !isSolid c

def endsApart (s : String) : Bool := s.toList.getLast?.any fun c => !isSolid c

theorem mem_banned_false (member : word ∈ banned queries) : word ∈ banned false := by
  cases queries with
  | false => exact member
  | true =>
    rcases List.mem_cons.1 member with rfl | member
    · simp [banned]
    · rw [List.mem_singleton.1 member]
      simp [banned]

theorem isSolidWord_of_banned (member : word ∈ banned queries) : isSolidWord word = true := by
  have all : (banned false).all isSolidWord = true := by decide
  exact List.all_eq_true.1 all word (mem_banned_false member)

theorem startsApart_iff :
    startsApart s = true ↔ ∃ c rest, s.toList = c :: rest ∧ isSolid c = false := by
  unfold startsApart
  cases s.toList with
  | nil => simp
  | cons c rest => simp

theorem endsApart_iff :
    endsApart s = true ↔ ∃ rest c, s.toList = rest ++ [c] ∧ isSolid c = false := by
  unfold endsApart
  constructor
  · intro ends
    rcases List.eq_nil_or_concat s.toList with empty | ⟨rest, c, split⟩
    · simp [empty] at ends
    · exact ⟨rest, c, by simpa using split, by simpa [split] using ends⟩
  · rintro ⟨rest, c, split, apart⟩
    simp [split, apart]

theorem startsApart_append (t : String) (starts : startsApart s = true) :
    startsApart (s ++ t) = true := by
  obtain ⟨c, rest, split, apart⟩ := startsApart_iff.1 starts
  exact startsApart_iff.2 ⟨c, rest ++ t.toList, by simp [split], apart⟩

theorem endsApart_append (s : String) (ends : endsApart t = true) : endsApart (s ++ t) = true := by
  obtain ⟨rest, c, split, apart⟩ := endsApart_iff.1 ends
  exact endsApart_iff.2 ⟨s.toList ++ rest, c, by simp [split], apart⟩

namespace Passes

variable {queries : Bool} {s t : String} {before between after : Nat}

theorem shift (more : Nat) (passes : Passes queries s before after) :
    Passes queries s (before + more) (after + more) := by
  obtain ⟨found, closed, depth, free⟩ := passes
  exact ⟨found, closed, depthAfter_add more depth, free⟩

theorem empty (depth : Nat) : Passes queries "" depth depth :=
  ⟨[], rfl, rfl, fun _ _ => rfl⟩

private theorem assemble
    (closed : outside? isSqlQuote none (s ++ t).toList = some (left ++ gap :: right))
    (depth : depthAfter before (left ++ gap :: right) = some after) (apart : isSolid gap = false)
    (free : ∀ word ∈ banned queries, occurs word left = false ∧ occurs word right = false) :
    Passes queries (s ++ t) before after := by
  refine ⟨_, closed, depth, fun word member => ?_⟩
  rw [occurs_append_gap (isSolidWord_of_banned member) apart, (free word member).1,
    (free word member).2]
  rfl

private theorem outside?_appended (closed : outside? isSqlQuote none s.toList = some found)
    (closedMore : outside? isSqlQuote none t.toList = some more) :
    outside? isSqlQuote none (s ++ t).toList = some (found ++ more) := by
  rw [String.toList_append, outside?_append closed, closedMore]
  rfl

theorem before_gap (first : Passes queries s before between)
    (second : Passes queries t between after) (gap : startsApart t = true) :
    Passes queries (s ++ t) before after := by
  obtain ⟨found, closed, depth, free⟩ := first
  obtain ⟨more, closedMore, depthMore, freeMore⟩ := second
  obtain ⟨c, rest, split, apart⟩ := startsApart_iff.1 gap
  obtain ⟨right, rfl⟩ : ∃ right, more = c :: right := by
    rw [split, outside?, Option.map_eq_some_iff] at closedMore
    obtain ⟨right, -, rfl⟩ := closedMore
    exact ⟨right, rfl⟩
  refine assemble (outside?_appended closed closedMore) ?_ apart fun word member => ?_
  · rw [depthAfter_append, depth]
    exact depthMore
  · have split := occurs_append_gap (s := []) (t := right) (isSolidWord_of_banned member) apart
    rw [List.nil_append, freeMore word member] at split
    exact ⟨free word member, split.symm⟩

theorem after_gap (first : Passes queries s before between)
    (second : Passes queries t between after) (gap : endsApart s = true) :
    Passes queries (s ++ t) before after := by
  obtain ⟨found, closed, depth, free⟩ := first
  obtain ⟨more, closedMore, depthMore, freeMore⟩ := second
  obtain ⟨rest, c, split, apart⟩ := endsApart_iff.1 gap
  obtain ⟨left, rfl⟩ : ∃ left, found = left ++ [c] := outside?_concat (split ▸ closed)
  have joined := outside?_appended closed closedMore
  rw [List.append_assoc, List.singleton_append] at joined
  refine assemble joined ?_ apart fun word member => ?_
  · rw [← List.singleton_append, ← List.append_assoc, depthAfter_append, depth]
    exact depthMore
  · have split := occurs_append_gap (s := left) (t := []) (isSolidWord_of_banned member) apart
    rw [free word member] at split
    exact ⟨(Bool.or_eq_false_iff.1 split.symm).1, freeMore word member⟩

/-- Whether a text without quotes passes, wherever it stands. -/
def isGlue (s : String) (before after : Nat) : Bool :=
  s.toList.all (fun c => !isSqlQuote c) && depthAfter before s.toList == some after &&
    (banned false).all fun word => !occurs word s.toList

theorem glue (check : isGlue s before after = true) : Passes queries s before after := by
  simp only [isGlue, Bool.and_eq_true, List.all_eq_true, Bool.not_eq_true', beq_iff_eq] at check
  obtain ⟨⟨plain, depth⟩, free⟩ := check
  exact ⟨s.toList, outside?_of_plain plain, depth,
    fun word member => free word (mem_banned_false member)⟩

theorem enclose (quote : isSqlQuote q = true) (content : String) :
    Passes queries (enclose q content) 0 0 := by
  have apart : isSolid q = false ∧ q ≠ '(' ∧ q ≠ ')' := by
    simp only [isSqlQuote, Bool.or_eq_true, beq_iff_eq] at quote
    rcases quote with rfl | rfl <;> decide
  obtain ⟨n, closed⟩ := outside?_enclose quote content
  refine ⟨_, closed, depthAfter_of_plain (fun c member => ?_) 0, fun word member => ?_⟩
  · rw [List.eq_of_mem_replicate member]
    exact apart.2
  · refine occurs_of_gaps (isSolidWord_of_banned member) fun c among => ?_
    rw [List.eq_of_mem_replicate among]
    exact apart.1

private theorem notSqlQuote_of_isBlank (blank : isBlank c = true) : isSqlQuote c = false :=
  isSqlQuote_eq_false (plain_of_isBlank blank).1

private theorem tail_of_blank (blank : isBlank c = true)
    (passes : Passes queries (String.ofList (c :: cs)) before after) :
    Passes queries (String.ofList cs) before after := by
  obtain ⟨found, closed, depth, free⟩ := passes
  rw [String.toList_ofList] at closed
  obtain ⟨rest, rfl, inner, level⟩ :=
    outside?_of_blank_cons blank (notSqlQuote_of_isBlank blank) depth closed
  refine ⟨rest, by rw [String.toList_ofList]; exact inner, level, fun word member => ?_⟩
  have split := occurs_append_gap (s := []) (t := rest) (isSolidWord_of_banned member)
    (isSolid_of_isBlank blank)
  rw [List.nil_append, free word member] at split
  exact split.symm

private theorem init_of_blank (blank : isBlank c = true)
    (passes : Passes queries (String.ofList (cs ++ [c])) before after) :
    Passes queries (String.ofList cs) before after := by
  obtain ⟨found, closed, depth, free⟩ := passes
  rw [String.toList_ofList] at closed
  obtain ⟨rest, rfl, inner, level⟩ :=
    outside?_of_concat_blank blank (notSqlQuote_of_isBlank blank) depth closed
  refine ⟨rest, by rw [String.toList_ofList]; exact inner, level, fun word member => ?_⟩
  have split := occurs_append_gap (s := rest) (t := []) (isSolidWord_of_banned member)
    (isSolid_of_isBlank blank)
  rw [free word member] at split
  exact (Bool.or_eq_false_iff.1 split.symm).1

theorem trimmed (passes : Passes queries s before after) :
    Passes queries (trimmed s) before after := by
  rw [← String.ofList_toList (s := s)] at passes
  exact trim_kept (p := fun cs => Passes queries (String.ofList cs) before after)
    tail_of_blank init_of_blank passes

private theorem leads_minus {found : List Char} (member : word ∈ banned false)
    (head : found.head? ≠ some '-') : leads word.toList ('-' :: found) = false := by
  simp only [banned, if_neg Bool.false_ne_true, List.mem_cons, List.not_mem_nil,
    or_false] at member
  rcases member with rfl | rfl | rfl
  · cases found with
    | nil => rfl
    | cons c rest =>
      have differ : c.toLower ≠ '-' := by
        intro same
        have code := congrArg Char.toNat same
        rw [toNat_toLower, show '-'.toNat = 45 from rfl] at code
        have minus : c.toNat = 45 := by
          split at code <;> omega
        exact head (congrArg some (Char.toNat_inj.1 minus))
      simp [leads, rest?, differ.symm]
  · rfl
  · rfl

theorem minus (passes : Passes queries s before after)
    (starts : s.toList.head? ≠ some '-') : Passes queries ("-" ++ s) before after := by
  obtain ⟨found, closed, depth, free⟩ := passes
  have head : found.head? ≠ some '-' := by
    intro same
    cases split : s.toList with
    | nil =>
      rw [split] at closed
      cases closed
      cases same
    | cons c rest =>
      rw [split, outside?, Option.map_eq_some_iff] at closed
      obtain ⟨more, -, rfl⟩ := closed
      rw [split] at starts
      exact starts same
  refine ⟨'-' :: found, ?_, ?_, fun word member => ?_⟩
  · have split : ("-" ++ s).toList = '-' :: s.toList := by simp
    rw [split, outside?, show isSqlQuote '-' = false by decide, if_neg Bool.false_ne_true, closed]
    rfl
  · exact depth
  · rw [occurs, free word member, leads_minus (mem_banned_false member) head]
    rfl

theorem deeper (passes : Passes queries s 0 0) (depth : Nat) : Passes queries s depth depth := by
  have shifted := passes.shift depth
  rwa [Nat.zero_add] at shifted

theorem start (after : Nat) (check : (isGlue s 0 after && endsApart s) = true)
    (inner : Passes queries t 0 0) : Passes queries (s ++ t) 0 after := by
  rw [Bool.and_eq_true] at check
  exact (glue check.1).after_gap (inner.deeper after) check.2

theorem finish (first : Passes queries s before between)
    (check : (isGlue t between after && startsApart t) = true) :
    Passes queries (s ++ t) before after := by
  rw [Bool.and_eq_true] at check
  exact first.before_gap (glue check.1) check.2

/-- Whether a text without quotes passes and keeps apart what is on both sides of it. -/
def isLink (s : String) (before after : Nat) : Bool :=
  isGlue s before after && startsApart s && endsApart s

theorem isLink_add (more : Nat) (check : isLink s before after = true) :
    isLink s (before + more) (after + more) = true := by
  simp only [isLink, isGlue, Bool.and_eq_true, beq_iff_eq] at check ⊢
  obtain ⟨⟨⟨⟨plain, depth⟩, free⟩, starts⟩, ends⟩ := check
  exact ⟨⟨⟨⟨plain, depthAfter_add more depth⟩, free⟩, starts⟩, ends⟩

theorem link (first : Passes queries s before between) (after : Nat)
    (check : isLink g between after = true) (second : Passes queries t 0 0) :
    Passes queries (s ++ g ++ t) before after := by
  rw [isLink, Bool.and_eq_true] at check
  exact (first.finish check.1).after_gap (second.deeper after) (endsApart_append s check.2)

theorem joined (check : isLink separator 0 0 = true)
    (each : ∀ part ∈ parts, Passes queries part 0 0) :
    Passes queries (joined separator parts) 0 0 := by
  induction parts with
  | nil => exact empty 0
  | cons part rest ih =>
    cases rest with
    | nil => exact each part (by simp)
    | cons next rest =>
      rw [joined_cons_cons]
      exact (each part (by simp)).link 0 check
        (ih fun other member => each other (by simp [member]))

theorem brackets (inner : Passes queries s 0 0) : Passes queries ("(" ++ s ++ ")") 0 0 :=
  (start 1 (by decide) inner).finish (by decide)

theorem tail (first : Passes queries s before after) (second : Passes queries t 0 0)
    (starts : t = "" ∨ startsApart t = true) : Passes queries (s ++ t) before after := by
  rcases starts with rfl | apart
  · rwa [String.append_empty]
  · exact first.before_gap (second.deeper after) apart

end Passes

end SheetSql.Sql
