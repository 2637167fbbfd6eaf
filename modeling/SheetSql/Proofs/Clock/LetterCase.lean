import SheetSql.Clock.TimeUnit
import SheetSql.Proofs.Lexical.Outside

namespace SheetSql

/-! Units in any letter case. -/

namespace Text

theorem isBlank_toLower (c : Char) : isBlank c.toLower = isBlank c := by
  unfold isBlank
  rw [Sql.toNat_toLower, Bool.eq_iff_iff]
  simp only [Bool.or_eq_true, Bool.and_eq_true, decide_eq_true_eq, beq_iff_eq]
  split <;> omega

theorem toLower_eq_point (c : Char) : (c.toLower == '.') = (c == '.') := by
  rw [Bool.eq_iff_iff, beq_iff_eq, beq_iff_eq, ← Char.toNat_inj, ← Char.toNat_inj,
    Sql.toNat_toLower, show '.'.toNat = 46 from rfl]
  split <;> omega

theorem dropWhile_map_toLower (kept : ∀ c, drops c.toLower = drops c) (cs : List Char) :
    (cs.map Char.toLower).dropWhile drops = (cs.dropWhile drops).map Char.toLower := by
  rw [List.dropWhile_map, show drops ∘ Char.toLower = drops from funext kept]

theorem trim_map_toLower (cs : List Char) :
    trim (cs.map Char.toLower) = (trim cs).map Char.toLower := by
  unfold trim trimEnd trimStart
  rw [dropWhile_map_toLower isBlank_toLower, ← List.map_reverse,
    dropWhile_map_toLower isBlank_toLower, List.map_reverse]

end Text

namespace TimeUnit

theorem core_map_toLower (cs : List Char) :
    core (cs.map Char.toLower) = (core cs).map Char.toLower := by
  unfold core
  rw [Text.trim_map_toLower, ← List.map_reverse,
    Text.dropWhile_map_toLower Text.toLower_eq_point, List.map_reverse]

def ofWord? (word : List Char) : Option TimeUnit :=
  all.find? fun unit => unit.words.any fun s => s.toList == word

def ofSmall? (word : List Char) : Option TimeUnit :=
  if word = "ms".toList then some .millisecond else ofWord? word

def IsMixed (literal : String) : Prop :=
  core literal.toList = "Ms".toList ∨ core literal.toList = "mS".toList

instance (literal : String) : Decidable (IsMixed literal) :=
  inferInstanceAs (Decidable (_ ∨ _))

theorem mem_symbols_of_long {unit : TimeUnit} (member : s ∈ unit.symbols)
    (long : 2 ≤ s.toList.length) : s = "ms" ∨ s = "MS" := by
  have table : (unit.symbols.all fun s => s.toList.length < 2 || s == "ms" || s == "MS") = true := by
    cases unit <;> rfl
  have entry := List.all_eq_true.1 table s member
  simp only [Bool.or_eq_true, decide_eq_true_eq, beq_iff_eq] at entry
  rcases entry with (short | small) | great
  · omega
  · exact .inl small
  · exact .inr great

theorem find?_symbols_of_long {cs : List Char} (long : 2 ≤ cs.length) :
    (all.find? fun unit => unit.symbols.any fun s => s.toList == cs) =
      if cs = "ms".toList ∨ cs = "MS".toList then some .millisecond else none := by
  split
  · next symbol => rcases symbol with rfl | rfl <;> rfl
  · next other =>
      rw [List.find?_eq_none]
      intro unit _ found
      obtain ⟨s, member, same⟩ := List.any_eq_true.1 found
      rw [← eq_of_beq same] at long other
      rcases mem_symbols_of_long member long with rfl | rfl
      · exact other (.inl rfl)
      · exact other (.inr rfl)

theorem toLower_eq_iff {c d : Char} (small : 97 ≤ d.toNat ∧ d.toNat ≤ 122) :
    c.toLower = d ↔ c = d ∨ c.toNat + 32 = d.toNat := by
  rw [← Char.toNat_inj, ← Char.toNat_inj, Sql.toNat_toLower]
  split <;> omega

theorem map_toLower_eq_ms {cs : List Char} (small : cs.map Char.toLower = "ms".toList) :
    cs = "ms".toList ∨ cs = "MS".toList ∨ cs = "Ms".toList ∨ cs = "mS".toList := by
  have spelled : ∀ {c d : Char}, c.toNat + 32 = d.toNat → c = Char.ofNat (d.toNat - 32) := by
    intro c d apart
    rw [← apart, Nat.add_sub_cancel, Char.ofNat_toNat]
  obtain ⟨c, rest, rfl, first, others⟩ := List.map_eq_cons_iff.1 small
  obtain ⟨d, rest, rfl, second, last⟩ := List.map_eq_cons_iff.1 others
  obtain rfl := List.map_eq_nil_iff.1 last
  rcases (toLower_eq_iff (by decide)).1 first with rfl | great
  · rcases (toLower_eq_iff (by decide)).1 second with rfl | great
    · exact .inl rfl
    · rw [spelled great]
      exact .inr (.inr (.inr rfl))
  · rw [spelled great]
    rcases (toLower_eq_iff (by decide)).1 second with rfl | great
    · exact .inr (.inr (.inl rfl))
    · rw [spelled great]
      exact .inr (.inl rfl)

/-- Small letters tell the unit, unless they stand for letters of two cases. -/
theorem ofText?_of_long {literal : String} (long : 2 ≤ (core literal.toList).length) :
    ofText? literal =
      if IsMixed literal then none else ofSmall? ((core literal.toList).map Char.toLower) := by
  have reads : ofText? literal =
      (all.find? fun unit => unit.symbols.any fun s => s.toList == core literal.toList).orElse
        fun _ => ofWord? ((core literal.toList).map Char.toLower) := rfl
  rw [reads, find?_symbols_of_long long, ofSmall?]
  change _ = if core literal.toList = "Ms".toList ∨ core literal.toList = "mS".toList then none
    else _
  generalize core literal.toList = cs
  by_cases small : cs.map Char.toLower = "ms".toList
  · rcases map_toLower_eq_ms small with rfl | rfl | rfl | rfl <;> decide
  · have apart : ∀ {word : List Char}, word.map Char.toLower = "ms".toList → cs ≠ word :=
      fun letters same => small (same ▸ letters)
    rw [if_neg small, if_neg (not_or.2 ⟨apart rfl, apart rfl⟩),
      if_neg (not_or.2 ⟨apart rfl, apart rfl⟩)]
    rfl

theorem ofSmall?_of_isMixed (mixed : IsMixed literal) :
    ofSmall? ((core literal.toList).map Char.toLower) = some .millisecond := by
  rcases mixed with spelled | spelled
  all_goals
    rw [spelled]
    rfl

/--
Two literals that differ in the case of letters mean the same unit if they have more than one
letter, and the same measures of it, unless one of the two mixes the cases of milliseconds and the
other one does not.
-/
theorem unit_in_any_case_iff {a b : String} (long : 2 ≤ (core a.toList).length)
    (letters : Text.sameLetters a.toList b.toList = true) :
    (ofText? a = ofText? b ↔ (IsMixed a ↔ IsMixed b)) ∧
      ∀ measure ∈ [forAdding, forDifference, forTruncation],
        measure (ofText a) = measure (ofText b) ↔ (IsMixed a ↔ IsMixed b) := by
  have small : (core a.toList).map Char.toLower = (core b.toList).map Char.toLower := by
    rw [← core_map_toLower, ← core_map_toLower, eq_of_beq letters]
  have longToo : 2 ≤ (core b.toList).length := by
    rw [← List.length_map, ← small, List.length_map]
    exact long
  have first := ofText?_of_long long
  have second := ofText?_of_long longToo
  rw [← small] at second
  have counts : ∀ measure ∈ [forAdding, forDifference, forTruncation],
      measure .day ≠ measure .millisecond := by decide
  unfold ofText
  rw [first, second]
  by_cases one : IsMixed a
  · have known := ofSmall?_of_isMixed one
    by_cases other : IsMixed b
    · simp [one, other]
    · rw [if_pos one, if_neg other, known]
      refine ⟨by simp [one, other], fun measure member => ?_⟩
      simpa [one, other] using counts measure member
  · by_cases other : IsMixed b
    · have known := ofSmall?_of_isMixed other
      rw [← small] at known
      rw [if_neg one, if_pos other, known]
      refine ⟨by simp [one, other], fun measure member => ?_⟩
      simpa [one, other] using (counts measure member).symm
    · simp [one, other]

theorem unit_in_any_case_iff_hours :
    2 ≤ (core " hRs. ".toList).length ∧
      Text.sameLetters " hRs. ".toList " HrS. ".toList = true ∧
      ofText? " hRs. " = ofText? " HrS. " ∧
      forAdding (ofText " hRs. ") = forAdding (ofText " HrS. ") := by
  have long : 2 ≤ (core " hRs. ".toList).length := by decide
  have letters : Text.sameLetters " hRs. ".toList " HrS. ".toList = true := by decide
  have both : IsMixed " hRs. " ↔ IsMixed " HrS. " := by decide
  obtain ⟨units, measures⟩ := unit_in_any_case_iff long letters
  exact ⟨long, letters, units.2 both, (measures forAdding (by simp)).2 both⟩

/-- Milliseconds in two cases are no unit and count as days. -/
theorem mixed_milliseconds_unknown :
    2 ≤ (core "Ms".toList).length ∧ Text.sameLetters "Ms".toList "ms".toList = true ∧
      ofText? "ms" = some .millisecond ∧ ofText? "Ms" = none ∧
      forAdding (ofText "ms") = ⟨.second, .thousandth⟩ ∧
      forAdding (ofText "Ms") = ⟨.day, .times 1⟩ := by
  decide

end TimeUnit

end SheetSql
