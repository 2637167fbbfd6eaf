import SheetSql.Match.Regex
import SheetSql.Number.Decimal

namespace SheetSql

/-! What regular expressions match, and what their groups capture on the way. -/

/-- The texts that groups have captured, each with the number of its group. -/
abbrev Captures := List (Nat × List Char)

def Captures.at? (index : Nat) : Captures → Option (List Char)
  | [] => none
  | (number, text) :: rest => (at? index rest).or (if number = index then some text else none)

/-- Whether a text can be read between what is before and what is after it, with these captures. -/
abbrev Matcher := (before found after : List Char) → Captures → Prop

theorem Captures.at?_eq_none {captures : Captures} {index : Nat}
    (apart : ∀ entry ∈ captures, entry.1 ≠ index) : captures.at? index = none := by
  induction captures with
  | nil => rfl
  | cons entry rest ih =>
    obtain ⟨number, text⟩ := entry
    have head : number ≠ index := apart (number, text) List.mem_cons_self
    rw [Captures.at?, ih fun entry member => apart entry (List.mem_cons_of_mem _ member),
      if_neg head]
    rfl

namespace Matcher

def nothing : Matcher := fun _ found _ captures => found = [] ∧ captures = []

def atStart : Matcher := fun before found _ captures => before = [] ∧ found = [] ∧ captures = []

def atEnd : Matcher := fun _ found after captures => after = [] ∧ found = [] ∧ captures = []

def one (accepts : Char → Bool) : Matcher := fun _ found _ captures =>
  ∃ c, accepts c = true ∧ found = [c] ∧ captures = []

def andThen (first second : Matcher) : Matcher := fun before found after captures =>
  ∃ head tail headCaptures tailCaptures,
    found = head ++ tail ∧ captures = headCaptures ++ tailCaptures ∧
      first before head (tail ++ after) headCaptures ∧
      second (before ++ head) tail after tailCaptures

def either (left right : Matcher) : Matcher := fun before found after captures =>
  left before found after captures ∨ right before found after captures

def captured (index : Nat) (inner : Matcher) : Matcher := fun before found after captures =>
  ∃ more, captures = (index, found) :: more ∧ inner before found after more

def repeated (inner : Matcher) : Nat → Matcher
  | 0 => nothing
  | n + 1 => inner.andThen (inner.repeated n)

def times (inner : Matcher) (least : Nat) (most : Option Nat) : Matcher :=
  fun before found after captures =>
    ∃ n, least ≤ n ∧ (∀ bound ∈ most, n ≤ bound) ∧ inner.repeated n before found after captures

theorem nothing_andThen (m : Matcher) : nothing.andThen m = m := by
  funext before found after captures
  apply propext
  constructor
  · rintro ⟨head, tail, _, _, rfl, rfl, ⟨rfl, rfl⟩, reads⟩
    simpa using reads
  · intro reads
    exact ⟨[], found, [], captures, rfl, rfl, ⟨rfl, rfl⟩, by simpa using reads⟩

theorem andThen_nothing (m : Matcher) : m.andThen nothing = m := by
  funext before found after captures
  apply propext
  constructor
  · rintro ⟨head, tail, _, _, rfl, rfl, reads, rfl, rfl⟩
    simpa using reads
  · intro reads
    exact ⟨found, [], captures, [], by simp, by simp, reads, rfl, rfl⟩

theorem andThen_assoc (a b c : Matcher) : (a.andThen b).andThen c = a.andThen (b.andThen c) := by
  funext before found after captures
  apply propext
  constructor
  · rintro ⟨_, third, _, thirdCaptures, rfl, rfl,
      ⟨first, second, firstCaptures, secondCaptures, rfl, rfl, readsFirst, readsSecond⟩,
      readsThird⟩
    refine ⟨first, second ++ third, firstCaptures, secondCaptures ++ thirdCaptures, ?_, ?_, ?_,
      second, third, secondCaptures, thirdCaptures, rfl, rfl, readsSecond, ?_⟩
    · exact List.append_assoc _ _ _
    · exact List.append_assoc _ _ _
    · simpa using readsFirst
    · simpa using readsThird
  · rintro ⟨first, _, firstCaptures, _, rfl, rfl, readsFirst,
      second, third, secondCaptures, thirdCaptures, rfl, rfl, readsSecond, readsThird⟩
    refine ⟨first ++ second, third, firstCaptures ++ secondCaptures, thirdCaptures, ?_, ?_,
      ⟨first, second, firstCaptures, secondCaptures, rfl, rfl, ?_, readsSecond⟩, ?_⟩
    · exact (List.append_assoc _ _ _).symm
    · exact (List.append_assoc _ _ _).symm
    · simpa using readsFirst
    · simpa using readsThird

theorem either_assoc (a b c : Matcher) : (a.either b).either c = a.either (b.either c) := by
  funext before found after captures
  exact propext or_assoc

theorem repeated_one :
    (one accepts).repeated n before found after captures ↔
      found.length = n ∧ (∀ c ∈ found, accepts c = true) ∧ captures = [] := by
  induction n generalizing before found captures with
  | zero =>
    constructor
    · rintro ⟨rfl, rfl⟩
      simp
    · rintro ⟨empty, -, rfl⟩
      exact ⟨List.eq_nil_of_length_eq_zero empty, rfl⟩
  | succ n ih =>
    constructor
    · rintro ⟨_, tail, _, _, rfl, rfl, ⟨c, accepted, rfl, rfl⟩, reads⟩
      obtain ⟨length, all, rfl⟩ := ih.1 reads
      simpa [length, accepted] using all
    · rintro ⟨length, all, rfl⟩
      cases found with
      | nil => cases length
      | cons c tail =>
        refine ⟨[c], tail, [], [], rfl, rfl, ⟨c, all c List.mem_cons_self, rfl, rfl⟩, ?_⟩
        refine ih.2 ⟨Nat.succ.inj length, ?_, rfl⟩
        intro x member
        exact all x (List.mem_cons_of_mem c member)

theorem times_one :
    (one accepts).times least most before found after captures ↔
      least ≤ found.length ∧ (∀ bound ∈ most, found.length ≤ bound) ∧
        (∀ c ∈ found, accepts c = true) ∧ captures = [] := by
  constructor
  · rintro ⟨n, enough, bounded, reads⟩
    obtain ⟨rfl, all, none⟩ := repeated_one.1 reads
    exact ⟨enough, bounded, all, none⟩
  · rintro ⟨enough, bounded, all, none⟩
    exact ⟨found.length, enough, bounded, repeated_one.2 ⟨rfl, all, none⟩⟩

theorem times_opt {inner : Matcher} :
    inner.times 0 (some 1) before found after captures ↔
      (found = [] ∧ captures = []) ∨ inner before found after captures := by
  constructor
  · rintro ⟨n, -, bounded, reads⟩
    have small := bounded 1 rfl
    cases n with
    | zero => exact .inl reads
    | succ n =>
      have last : n = 0 := by omega
      subst last
      rw [repeated, repeated, andThen_nothing] at reads
      exact .inr reads
  · rintro (empty | reads)
    · exact ⟨0, Nat.le_refl 0, by simp, empty⟩
    · refine ⟨1, Nat.zero_le 1, by simp, ?_⟩
      rw [repeated, repeated, andThen_nothing]
      exact reads

end Matcher

namespace Regex

open Matcher

def groups : Regex → Nat
  | .seq first second => first.groups + second.groups
  | .alt left right => left.groups + right.groups
  | .group captures inner => (if captures then 1 else 0) + inner.groups
  | .rep inner _ _ => inner.groups
  | _ => 0

/--
What an expression reads, when its first group has the number `index`. The groups are numbered in
the order of their opening brackets, those of an alternative that is not taken included.
-/
def reads (blank : Char → Bool) : Regex → Nat → Matcher
  | .empty, _ => nothing
  | .start, _ => atStart
  | .finish, _ => atEnd
  | .char c, _ => one (· == c)
  | .anyChar, _ => one fun _ => true
  | .digit, _ => one Char.isDigit
  | .blank, _ => one blank
  | .set members, _ => one members.has
  | .seq first second, index =>
    (first.reads blank index).andThen (second.reads blank (index + first.groups))
  | .alt left right, index =>
    (left.reads blank index).either (right.reads blank (index + left.groups))
  | .group true inner, index => (inner.reads blank (index + 1)).captured index
  | .group false inner, index => inner.reads blank index
  | .rep inner least most, index => (inner.reads blank index).times least most

-- The equations of the meaning, with which the lemmas below open.
attribute [local simp] groups reads

theorem index_of_repeated {inner : Matcher} {low high : Nat}
    (bounds : ∀ {before found after captures}, inner before found after captures →
      ∀ entry ∈ captures, low ≤ entry.1 ∧ entry.1 < high)
    (n : Nat) {before found after : List Char} {captures : Captures}
    (read : inner.repeated n before found after captures) :
    ∀ entry ∈ captures, low ≤ entry.1 ∧ entry.1 < high := by
  induction n generalizing before found captures with
  | zero =>
    obtain ⟨-, rfl⟩ := read
    simp
  | succ n ih =>
    obtain ⟨_, _, _, _, -, rfl, first, rest⟩ := read
    intro entry member
    rcases List.mem_append.1 member with member | member
    · exact bounds first entry member
    · exact ih rest entry member

theorem index_of_reads (blank : Char → Bool) (r : Regex) {index : Nat}
    {before found after : List Char} {captures : Captures}
    (read : r.reads blank index before found after captures) :
    ∀ entry ∈ captures, index ≤ entry.1 ∧ entry.1 < index + r.groups := by
  induction r generalizing index before found after captures with
  | empty => simp [read.2]
  | start => simp [read.2.2]
  | finish => simp [read.2.2]
  | char | anyChar | digit | blank | set =>
    obtain ⟨_, -, -, rfl⟩ := read
    simp
  | seq first second ihFirst ihSecond =>
    obtain ⟨_, _, _, _, -, rfl, readFirst, readSecond⟩ := read
    intro entry member
    rw [groups]
    rcases List.mem_append.1 member with member | member
    · have := ihFirst readFirst entry member
      omega
    · have := ihSecond readSecond entry member
      omega
  | alt left right ihLeft ihRight =>
    intro entry member
    rw [groups]
    rcases read with read | read
    · have := ihLeft read entry member
      omega
    · have := ihRight read entry member
      omega
  | group isCapture inner ih =>
    cases isCapture with
    | false =>
      intro entry member
      have := ih read entry member
      simp only [groups]
      omega
    | true =>
      obtain ⟨_, rfl, read⟩ := read
      intro entry member
      simp only [groups, if_true]
      rcases List.mem_cons.1 member with rfl | member
      · omega
      · have := ih read entry member
        omega
  | rep inner least most ih =>
    obtain ⟨n, -, -, read⟩ := read
    exact index_of_repeated ih n read

theorem captures_of_groups {blank : Char → Bool} {r : Regex} (none : r.groups = 0) {index : Nat}
    {before found after : List Char} {captures : Captures}
    (read : r.reads blank index before found after captures) : captures = [] := by
  apply List.eq_nil_iff_forall_not_mem.2
  intro entry member
  have := index_of_reads blank r read entry member
  omega

def Matches (blank : Char → Bool) (r : Regex) (text : List Char) (captures : Captures) : Prop :=
  ∃ before found after, text = before ++ found ++ after ∧
    r.reads blank 1 before found after captures

/-- Two expressions with as many groups that read and capture the same. -/
structure Same (blank : Char → Bool) (r r' : Regex) : Prop where
  groups : r.groups = r'.groups
  reads : r.reads blank = r'.reads blank

theorem isDigits_of_reads {blank : Char → Bool} {index least most : Nat}
    {before found after : List Char} {captures : Captures}
    (read : (digit.between least most).reads blank index before found after captures) :
    Decimal.isDigits found = true ∧ least ≤ found.length ∧ found.length ≤ most := by
  obtain ⟨enough, bounded, all, -⟩ := times_one.1 read
  exact ⟨List.all_eq_true.2 all, enough, bounded most rfl⟩

namespace Same

variable {blank : Char → Bool} {a a' b b' c : Regex}

theorem refl (r : Regex) : Same blank r r := ⟨rfl, rfl⟩

theorem symm (same : Same blank a b) : Same blank b a :=
  ⟨same.groups.symm, same.reads.symm⟩

theorem trans (first : Same blank a b) (second : Same blank b c) : Same blank a c :=
  ⟨first.groups.trans second.groups, first.reads.trans second.reads⟩

theorem seq (first : Same blank a a') (second : Same blank b b') :
    Same blank (.seq a b) (.seq a' b') := by
  refine ⟨?_, funext fun index => ?_⟩
  · rw [Regex.groups, Regex.groups, first.groups, second.groups]
  · rw [Regex.reads, Regex.reads, first.reads, second.reads, first.groups]

theorem alt (left : Same blank a a') (right : Same blank b b') :
    Same blank (.alt a b) (.alt a' b') := by
  refine ⟨?_, funext fun index => ?_⟩
  · rw [Regex.groups, Regex.groups, left.groups, right.groups]
  · rw [Regex.reads, Regex.reads, left.reads, right.reads, left.groups]

theorem group (captures : Bool) (inner : Same blank a a') :
    Same blank (.group captures a) (.group captures a') := by
  refine ⟨?_, funext fun index => ?_⟩
  · rw [Regex.groups, Regex.groups, inner.groups]
  · cases captures with
    | false => rw [Regex.reads, Regex.reads, inner.reads]
    | true => rw [Regex.reads, Regex.reads, inner.reads]

theorem rep (inner : Same blank a a') (least : Nat) (most : Option Nat) :
    Same blank (.rep a least most) (.rep a' least most) := by
  refine ⟨?_, funext fun index => ?_⟩
  · rw [Regex.groups, Regex.groups, inner.groups]
  · rw [Regex.reads, Regex.reads, inner.reads]

theorem empty_seq (r : Regex) : Same blank (.seq .empty r) r :=
  ⟨Nat.zero_add r.groups, funext fun index => nothing_andThen (r.reads blank index)⟩

theorem seq_empty (r : Regex) : Same blank (.seq r .empty) r :=
  ⟨Nat.add_zero r.groups, funext fun index => andThen_nothing (r.reads blank index)⟩

theorem seq_assoc (a b c : Regex) :
    Same blank (.seq (.seq a b) c) (.seq a (.seq b c)) := by
  refine ⟨Nat.add_assoc _ _ _, funext fun index => ?_⟩
  simp only [Regex.reads, Regex.groups, andThen_assoc, Nat.add_assoc]

theorem alt_assoc (a b c : Regex) :
    Same blank (.alt (.alt a b) c) (.alt a (.alt b c)) := by
  refine ⟨Nat.add_assoc _ _ _, funext fun index => ?_⟩
  simp only [Regex.reads, Regex.groups, either_assoc, Nat.add_assoc]

theorem matches_iff (same : Same blank a b) {text : List Char} {captures : Captures} :
    a.Matches blank text captures ↔ b.Matches blank text captures := by
  rw [Matches, Matches, same.reads]

theorem seqAll_cons (first : Regex) (rest : List Regex) :
    Same blank (seqAll (first :: rest)) (.seq first (seqAll rest)) := by
  cases rest with
  | nil => exact (seq_empty first).symm
  | cons next rest => exact .refl _

theorem seqAll_concat (parts : List Regex) (last : Regex) :
    Same blank (seqAll (parts ++ [last])) (.seq (seqAll parts) last) := by
  induction parts with
  | nil => exact (empty_seq last).symm
  | cons part rest ih =>
    cases rest with
    | nil => exact .refl _
    | cons next rest =>
      exact ((refl part).seq ih).trans (seq_assoc _ _ _).symm

theorem altAll_concat (first : Regex) (others : List Regex) (last : Regex) :
    Same blank (altAll (first :: others ++ [last])) (.alt (altAll (first :: others)) last) := by
  induction others generalizing first with
  | nil => exact .refl _
  | cons other others ih =>
    exact ((refl first).alt (ih other)).trans (alt_assoc _ _ _).symm

end Same

end Regex

end SheetSql
