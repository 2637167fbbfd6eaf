import SheetSql.Proofs.Lexical.Render

namespace SheetSql

/-! Compiled texts are closed in themselves: they can be put into any place of a statement. -/

open Sql

/--
Whether every quote of a text is closed, its brackets outside quotes close in their order and none
is left open, and no comment starts outside quotes.
-/
def isClosed (sql : String) : Bool :=
  match outside? isSqlQuote none sql.toList with
  | some found => depthAfter 0 found == some 0 && !occurs "--" found && !occurs "/*" found
  | none => false

example : isClosed "f('it''s', \"a--b\", - 1)" = true := by decide

example : isClosed "f('it's')" = false := by decide

theorem isClosed_iff : isClosed sql = true ↔ Passes true sql 0 0 := by
  unfold isClosed Passes
  cases outside? isSqlQuote none sql.toList with
  | none => simp
  | some found => simp [banned, and_assoc]

/--
A call of closed arguments has a closed text, and so has a formula whatever its leaves hold: no
content of a text, a name or a format can end the quotes it stands in.
-/
theorem isClosed_of_render (target : Target) (job : Job) :
    (∀ (name : String) (args : List String) (hints : List Hint) (sql : String),
      (∀ arg ∈ args, isClosed arg = true) → target.render job name args hints = .ok sql →
        isClosed sql = true) ∧
    ∀ (formula : Formula) (sql : String), formula.render target job = .ok sql →
      isClosed sql = true := by
  refine ⟨fun name args hints sql closed found => ?_, fun formula sql found => ?_⟩
  · exact isClosed_iff.2
      (render_passes (fun _ => rfl) (fun arg member => isClosed_iff.1 (closed arg member)) found)
  · exact isClosed_iff.2 (formula_passes (fun _ => rfl) found)

def awkwardJob : Job := .ofCatalog (.ofFields [.ofStorage "f" "it's \"--\" (" .text]) ⟨0, 0⟩

set_option maxRecDepth 10000 in
theorem isClosed_of_render_minus :
    (isClosed "-1" = true ∧
      Target.render ⟨.postgres, .select⟩ awkwardJob "unaryMinus" ["-1"] [] =
        .ok "(-COALESCE(CAST((-1) AS DOUBLE PRECISION), 0))" ∧
      isClosed "(-COALESCE(CAST((-1) AS DOUBLE PRECISION), 0))" = true) ∧
    Formula.render ⟨.postgres, .select⟩ awkwardJob
        (.call "concatenate" [.leaf (.text "it's -- ("), .leaf (.field "f")] []) =
      .ok "(COALESCE('it''s -- (', '') || COALESCE(\"it's \"\"--\"\" (\", ''))" ∧
    isClosed "(COALESCE('it''s -- (', '') || COALESCE(\"it's \"\"--\"\" (\", ''))" = true := by
  have minus : Target.render ⟨.postgres, .select⟩ awkwardJob "unaryMinus" ["-1"] [] =
      .ok "(-COALESCE(CAST((-1) AS DOUBLE PRECISION), 0))" := by rfl
  have both : Formula.render ⟨.postgres, .select⟩ awkwardJob
        (.call "concatenate" [.leaf (.text "it's -- ("), .leaf (.field "f")] []) =
      .ok "(COALESCE('it''s -- (', '') || COALESCE(\"it's \"\"--\"\" (\", ''))" := by rfl
  have all := isClosed_of_render ⟨.postgres, .select⟩ awkwardJob
  exact ⟨⟨by decide, minus, all.1 _ _ _ _ (by decide) minus⟩, both, all.2 _ _ both⟩

end SheetSql
