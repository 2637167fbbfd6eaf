import SheetSql.Proofs.Meaning.Loose
import SheetSql.Proofs.Meaning.Run

namespace SheetSql

/-! Searches of regular expressions, which are given to the engine as texts. -/

open Coerce Steps

variable {engine : Engine} {allowed : Act → Prop} {e : Expr} {r : Regex} {cs : List Char}

theorem apply_regexpMatch (engine : Engine) (cs pattern : List Char) :
    engine.apply "regexp_match" [.value (.text cs), .value (.text pattern)] =
      engine.regexpMatch [.value (.text cs), .value (.text pattern)] := rfl

theorem exists_of_accepts (engine : Engine) (stands : r.fits .whole = true)
    (accepts : r.Accepts cs) :
    ∃ captures, r.Matches Chars.isSpace cs captures ∧
      engine.apply "regexp_match" [.value (.text cs), .value (.text r.text.toList)] =
        some (.texts (Engine.groupTexts r.groups captures)) := by
  obtain ⟨read, spelled, same⟩ := Regex.ofText?_text Chars.isSpace stands
  obtain ⟨known, accepted⟩ := accepts
  obtain ⟨captures, found⟩ :=
    Option.isSome_iff_exists.1 (engine.find_complete (same.matches_iff.2 accepted))
  refine ⟨captures, same.matches_iff.1 (engine.find_matches found), ?_⟩
  rw [apply_regexpMatch, Engine.regexpMatch, String.ofList_toList, spelled, Option.map_some,
    found, same.groups]

open Classical in
theorem run_regexMatch (stands : r.fits .whole = true)
    (text : (e.run engine).Gives allowed (.value (.text cs))) {answer : Bool}
    (same : answer = true ↔ r.Accepts cs) :
    ((regexMatch e r).run engine).Gives allowed
      (.value (.ofTruth engine.dialect (some answer))) := by
  have decided : decide (r.Accepts cs) = answer := by
    rw [Bool.eq_iff_iff, decide_eq_true_iff]
    exact same.symm
  refine run_binary text (run_text _) ?_
  rw [Engine.binary, binary_regexMatch, regexMatch?_text stands, decided]
  rfl

theorem run_regexMatch_null (null : (e.run engine).Gives allowed (.value .null)) :
    ((regexMatch e r).run engine).Gives allowed (.value (.ofTruth engine.dialect none)) :=
  run_binary null (run_text _) rfl

theorem castText_eq (shown : ℚ → List Char) (v : Value) :
    v.castText shown = .null ∨ ∃ cs, v.castText shown = .text cs := by
  cases v with
  | null => exact .inl rfl
  | bool b => exact .inr ⟨_, rfl⟩
  | int n => exact .inr ⟨_, rfl⟩
  | real q => exact .inr ⟨_, rfl⟩
  | text cs => exact .inr ⟨_, rfl⟩
  | other cs => exact .inr ⟨_, rfl⟩

theorem run_castText (value : (e.run engine).Gives allowed (.value v))
    (may : allowed (.cast (.value v) .text)) :
    ((e.cast .text).run engine).Gives allowed (.value (v.castText engine.shown)) :=
  run_cast value rfl may

end SheetSql
