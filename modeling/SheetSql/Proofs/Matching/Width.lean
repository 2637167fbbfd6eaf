import SheetSql.Proofs.Matching.Meaning

namespace SheetSql.Regex

/-! How long the texts are that a regular expression reads. -/

def width? : Regex → Option Nat
  | .empty | .start | .finish => some 0
  | .char _ | .anyChar | .digit | .blank | .set _ => some 1
  | .seq first second => first.width?.bind fun m => second.width?.map (m + ·)
  | .alt left right => left.width?.bind fun m => right.width?.map (max m ·)
  | .group _ inner => inner.width?
  | .rep inner _ (some most) => inner.width?.map (most * ·)
  | .rep _ _ none => none

theorem length_le_of_reads {blank : Char → Bool} (r : Regex) {width : Nat}
    (bounded : r.width? = some width) {index : Nat} {before found after : List Char}
    {captures : Captures} (read : r.reads blank index before found after captures) :
    found.length ≤ width := by
  induction r generalizing width index before found after captures with
  | empty =>
    rw [read.1]
    exact Nat.zero_le _
  | start | finish =>
    rw [read.2.1]
    exact Nat.zero_le _
  | char | anyChar | digit | blank | set =>
    cases bounded
    obtain ⟨_, -, rfl, -⟩ := read
    exact Nat.le_refl 1
  | seq first second ihFirst ihSecond =>
    obtain ⟨m, isFirst, rest⟩ := Option.bind_eq_some_iff.1 bounded
    obtain ⟨n, isSecond, rfl⟩ := Option.map_eq_some_iff.1 rest
    obtain ⟨head, tail, _, _, rfl, -, readFirst, readSecond⟩ := read
    have headLe := ihFirst isFirst readFirst
    have tailLe := ihSecond isSecond readSecond
    rw [List.length_append]
    omega
  | alt left right ihLeft ihRight =>
    obtain ⟨m, isLeft, rest⟩ := Option.bind_eq_some_iff.1 bounded
    obtain ⟨n, isRight, rfl⟩ := Option.map_eq_some_iff.1 rest
    rcases read with read | read
    · have le := ihLeft isLeft read
      omega
    · have le := ihRight isRight read
      omega
  | group isCapture inner ih =>
    cases isCapture with
    | false => exact ih bounded read
    | true =>
      obtain ⟨_, -, read⟩ := read
      exact ih bounded read
  | rep inner least most ih =>
    cases most with
    | none => cases bounded
    | some most =>
      obtain ⟨n, isInner, rfl⟩ := Option.map_eq_some_iff.1 bounded
      obtain ⟨count, -, few, read⟩ := read
      have countLe : count ≤ most := few most rfl
      have length : found.length ≤ count * n := by
        clear few countLe bounded
        induction count generalizing before found captures with
        | zero =>
          rw [read.1]
          exact Nat.zero_le _
        | succ count more =>
          obtain ⟨head, tail, _, _, rfl, -, first, rest⟩ := read
          have headLe := ih isInner first
          have tailLe := more rest
          rw [List.length_append, Nat.succ_mul]
          omega
      exact Nat.le_trans length (Nat.mul_le_mul_right n countLe)

end SheetSql.Regex
