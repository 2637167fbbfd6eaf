import SheetSql.Proofs.Matching.Meaning

namespace SheetSql

/-! What the groups of a regular expression capture, by their numbers. -/

theorem Captures.mem_of_at? {captures : Captures} (found : captures.at? index = some text) :
    (index, text) ∈ captures := by
  induction captures with
  | nil => cases found
  | cons entry rest ih =>
    obtain ⟨number, first⟩ := entry
    rw [Captures.at?] at found
    rcases Option.or_eq_some_iff.1 found with later | ⟨_, here⟩
    · exact List.mem_cons_of_mem _ (ih later)
    · split at here
      · next same =>
          cases here
          rw [same]
          exact List.mem_cons_self
      · cases here

theorem Captures.isSome_at?_of_mem {captures : Captures} {entry : Nat × List Char}
    (member : entry ∈ captures) : (captures.at? entry.1).isSome := by
  induction captures with
  | nil => cases member
  | cons first rest ih =>
    rw [Captures.at?, Option.isSome_or, Bool.or_eq_true]
    rcases List.mem_cons.1 member with rfl | later
    · right
      simp
    · left
      exact ih later

namespace Regex

open Matcher

variable {blank : Char → Bool}

def groupsFrom : Regex → Nat → List (Nat × Regex)
  | .seq first second, index =>
    first.groupsFrom index ++ second.groupsFrom (index + first.groups)
  | .alt left right, index => left.groupsFrom index ++ right.groupsFrom (index + left.groups)
  | .group true inner, index => (index, inner) :: inner.groupsFrom (index + 1)
  | .group false inner, index => inner.groupsFrom index
  | .rep inner _ _, index => inner.groupsFrom index
  | _, _ => []

def certain : Regex → Nat → List Nat
  | .seq first second, index => first.certain index ++ second.certain (index + first.groups)
  | .group true inner, index => index :: inner.certain (index + 1)
  | .group false inner, index => inner.certain index
  | _, _ => []

def CapturedBy (blank : Char → Bool) (groups : List (Nat × Regex)) (entry : Nat × List Char) :
    Prop :=
  ∃ inner, (entry.1, inner) ∈ groups ∧
    ∃ before after captures, inner.reads blank (entry.1 + 1) before entry.2 after captures

theorem CapturedBy.mono {groups more : List (Nat × Regex)} {entry : Nat × List Char}
    (captured : CapturedBy blank groups entry) (subset : groups ⊆ more) :
    CapturedBy blank more entry := by
  obtain ⟨inner, member, read⟩ := captured
  exact ⟨inner, subset member, read⟩

theorem capturedBy_of_reads (r : Regex) (read : r.reads blank index before found after captures) :
    ∀ entry ∈ captures, CapturedBy blank (r.groupsFrom index) entry := by
  induction r generalizing index before found after captures with
  | empty => simp [read.2]
  | start => simp [read.2.2]
  | finish => simp [read.2.2]
  | char | anyChar | digit | blank | set =>
    obtain ⟨_, -, -, rfl⟩ := read
    simp
  | seq first second ihFirst ihSecond =>
    obtain ⟨_, _, _, _, -, rfl, readFirst, readSecond⟩ := read
    intro entry member
    rcases List.mem_append.1 member with member | member
    · exact (ihFirst readFirst entry member).mono (List.subset_append_left _ _)
    · exact (ihSecond readSecond entry member).mono (List.subset_append_right _ _)
  | alt left right ihLeft ihRight =>
    intro entry member
    rcases read with read | read
    · exact (ihLeft read entry member).mono (List.subset_append_left _ _)
    · exact (ihRight read entry member).mono (List.subset_append_right _ _)
  | group isCapture inner ih =>
    cases isCapture with
    | false => exact ih read
    | true =>
      obtain ⟨more, rfl, read⟩ := read
      intro entry member
      rcases List.mem_cons.1 member with rfl | member
      · exact ⟨inner, List.mem_cons_self, before, after, more, read⟩
      · exact (ih read entry member).mono (List.subset_cons_self _ _)
  | rep inner least most ih =>
    obtain ⟨n, -, -, read⟩ := read
    induction n generalizing before found captures with
    | zero =>
      obtain ⟨-, rfl⟩ := read
      simp
    | succ n more =>
      obtain ⟨_, _, _, _, -, rfl, first, rest⟩ := read
      intro entry member
      rcases List.mem_append.1 member with member | member
      · exact ih first entry member
      · exact more rest entry member

theorem exists_of_mem_certain (r : Regex) (read : r.reads blank index before found after captures)
    (sure : number ∈ r.certain index) : ∃ text, (number, text) ∈ captures := by
  induction r generalizing index before found after captures with
  | seq first second ihFirst ihSecond =>
    obtain ⟨_, _, _, _, -, rfl, readFirst, readSecond⟩ := read
    rcases List.mem_append.1 sure with sure | sure
    · obtain ⟨text, member⟩ := ihFirst readFirst sure
      exact ⟨text, List.mem_append_left _ member⟩
    · obtain ⟨text, member⟩ := ihSecond readSecond sure
      exact ⟨text, List.mem_append_right _ member⟩
  | group isCapture inner ih =>
    cases isCapture with
    | false => exact ih read sure
    | true =>
      obtain ⟨more, rfl, read⟩ := read
      rcases List.mem_cons.1 sure with rfl | sure
      · exact ⟨found, List.mem_cons_self⟩
      · obtain ⟨text, member⟩ := ih read sure
        exact ⟨text, List.mem_cons_of_mem _ member⟩
  | _ => cases sure

end Regex

end SheetSql
