import SheetSql.Proofs.Typing.Literal

namespace SheetSql

/-! Quoted constants and names: what is written is read back, and only that. -/

open Text Sql

theorem readName_quoteName (ends : rest.head? ≠ some doubleQuote) (name : String) :
    readName ((quoteName name).toList ++ rest) = some (name, rest) := by
  have read : readQuoted doubleQuote
      (double doubleQuote name.toList ++ [doubleQuote] ++ rest) = some (name.toList, rest) := by
    rw [List.append_assoc]
    exact readQuoted_eq_some_iff.2 ⟨rfl, ends⟩
  rw [quoteName, toList_enclose, List.cons_append, readName, if_pos (.inl rfl), read]
  simp

theorem reference?_printColumn (qualifier : Option String) (name : String) :
    reference? (printColumn qualifier name) = some ⟨qualifier, name⟩ := by
  have last : readName (quoteName name).toList = some (name, []) := by
    have read := readName_quoteName (show ([] : List Char).head? ≠ some doubleQuote by simp) name
    rwa [List.append_nil] at read
  cases qualifier with
  | none =>
    have whole : bare (quoteName name).toList = (quoteName name).toList := by
      rw [quoteName, toList_enclose, ← List.cons_append]
      exact bare_of_quotes rfl rfl _
    rw [printColumn, reference?, whole, last]
  | some table =>
    have text : (quoteName table ++ "." ++ quoteName name).toList =
        (quoteName table).toList ++ '.' :: (quoteName name).toList := by simp
    have whole : bare ((quoteName table).toList ++ '.' :: (quoteName name).toList) =
        (quoteName table).toList ++ '.' :: (quoteName name).toList := by
      have quotes : isQuote doubleQuote = true := rfl
      rw [quoteName, toList_enclose, quoteName, toList_enclose]
      simpa using bare_of_quotes quotes quotes (double doubleQuote table.toList ++
        doubleQuote :: '.' :: doubleQuote :: double doubleQuote name.toList)
    rw [printColumn, reference?, text, whole, readName_quoteName (by simp [doubleQuote])]
    simp only [last]

/--
Quoting and unquoting are inverse for constants, with brackets around the quoted text left out.
A column that is printed is read back as itself, and so is the column of a field, which has the
alias of the table before it in a select alone.
-/
theorem quoted_read_back :
    (∀ content, textLiteral? (quoteText content) = some content) ∧
    (∀ sql content, textLiteral? sql = some content →
      String.ofList (bare sql.toList) = quoteText content) ∧
    (∀ dialect qualifier name,
      reference? ((Expr.column qualifier name).print dialect) = some ⟨qualifier, name⟩) ∧
    ∀ (target : Target) (job : Job) (id : String) (field : Field),
      job.catalog.byId? id = some field →
      ∃ sql, target.renderLeaf job (.field id) = .ok sql ∧
        reference? sql =
          some ⟨if target.placement = .select then job.tableAlias else none, field.column⟩ := by
  refine ⟨textLiteral?_quoteText, ?_, ?_, ?_⟩
  · intro sql content read
    rw [(textLiteral?_eq_some_iff sql content).1 read, String.ofList_toList]
  · intro dialect qualifier name
    rw [Expr.print]
    exact reference?_printColumn qualifier name
  · intro target job id field known
    have qualifier : job.qualifier target =
        if target.placement = .select then job.tableAlias else none := by
      rw [Job.qualifier]
      cases target.placement <;> rfl
    refine ⟨printColumn (job.qualifier target) field.column, ?_, ?_⟩
    · rw [Target.renderLeaf, Target.leaf, known]
      exact congrArg Except.ok (by rw [Expr.print])
    · rw [reference?_printColumn, qualifier]

/-- A column whose name has a point between quotes. -/
def dottedField : Field := .ofStorage "fld1" "a\".\"" .real

def dottedJob : Job :=
  { Job.ofCatalog (.ofFields [dottedField]) ⟨0, 0⟩ with tableAlias := some "\"" }

theorem quoted_read_back_dotted :
    textLiteral? "(('it''s'))" = some "it's" ∧
      String.ofList (bare "(('it''s'))".toList) = quoteText "it's" ∧
      dottedJob.catalog.byId? "fld1" = some dottedField ∧
      ∃ sql, Target.renderLeaf ⟨.sqlite, .select⟩ dottedJob (.field "fld1") = .ok sql ∧
        reference? sql = some ⟨some "\"", "a\".\""⟩ := by
  have literal : textLiteral? "(('it''s'))" = some "it's" := rfl
  exact ⟨literal, quoted_read_back.2.1 _ _ literal, rfl,
    quoted_read_back.2.2.2 ⟨.sqlite, .select⟩ dottedJob "fld1" dottedField rfl⟩

end SheetSql
