import SheetSql.Proofs.Alike.Expr
import SheetSql.Proofs.Lexical.Passes
import SheetSql.Sql.Printer

namespace SheetSql

/-! Printed expressions. -/

open Text Sql

variable {queries : Bool}

theorem isWordChar_iff (c : Char) :
    isWordChar c = true ↔
      (48 ≤ c.toNat ∧ c.toNat ≤ 57) ∨ (65 ≤ c.toNat ∧ c.toNat ≤ 90) ∨
        (97 ≤ c.toNat ∧ c.toNat ≤ 122) ∨ c.toNat = 95 := by
  simp only [isWordChar, Char.isAlphanum, Char.isDigit, Bool.or_eq_true, isAlpha_iff,
    Bool.and_eq_true, decide_eq_true_eq, beq_iff_eq, UInt32.le_iff_toNat_le, ge_iff_le,
    Char.toNat_val, ← Char.toNat_inj]
  change (((65 ≤ c.toNat ∧ c.toNat ≤ 90) ∨ (97 ≤ c.toNat ∧ c.toNat ≤ 122)) ∨
    (48 ≤ c.toNat ∧ c.toNat ≤ 57)) ∨ c.toNat = 95 ↔ _
  omega

theorem occurs_of_absent {word : String} (split : word.toList = p :: lead)
    (absent : ∀ c ∈ cs, p.toLower ≠ c.toLower) : occurs word cs = false := by
  induction cs with
  | nil => rfl
  | cons c rest ih =>
    have here : leads word.toList (c :: rest) = false := by
      rw [split, leads, rest?, if_neg (by simpa using absent c (by simp))]
      rfl
    rw [occurs, here, ih fun d member => absent d (by simp [member])]
    rfl

theorem passes_of_isFunctionName (function : isFunctionName name = true) :
    Passes queries name 0 0 := by
  rw [isFunctionName, Bool.and_eq_true, List.all_eq_true, Bool.not_eq_true'] at function
  obtain ⟨word, free⟩ := function
  have code : ∀ c ∈ name.toList, c.toLower.toNat ≠ 45 ∧ c.toLower.toNat ≠ 47 := by
    intro c member
    have range := (isWordChar_iff c).1 (word c member)
    rw [toNat_toLower]
    split <;> omega
  have plain : ∀ c ∈ name.toList, isQuote c = false ∧ c ≠ '(' ∧ c ≠ ')' :=
    fun c member => plain_of_apart (by decide) (word c member)
  refine ⟨_, outside?_of_plain fun c member => isSqlQuote_eq_false (plain c member).1,
    depthAfter_of_plain (fun c member => (plain c member).2) 0, fun word member => ?_⟩
  have among := mem_banned_false member
  simp only [banned, if_neg Bool.false_ne_true, List.mem_cons, List.not_mem_nil,
    or_false] at among
  rcases among with rfl | rfl | rfl
  · refine occurs_of_absent (show "--".toList = '-' :: ['-'] from rfl) fun c member same => ?_
    exact (code c member).1 (congrArg Char.toNat same.symm)
  · refine occurs_of_absent (show "/*".toList = '/' :: ['*'] from rfl) fun c member same => ?_
    exact (code c member).2 (congrArg Char.toNat same.symm)
  · exact free

theorem passes_of_digits (digits : ∀ c ∈ cs, (c.isDigit || c == '.') = true) :
    Passes queries (String.ofList cs) 0 0 := by
  have code : ∀ c ∈ cs, (48 ≤ c.toNat ∧ c.toNat ≤ 57) ∨ c.toNat = 46 := by
    intro c member
    have range := digits c member
    simp only [Char.isDigit, Bool.or_eq_true, Bool.and_eq_true, decide_eq_true_eq, beq_iff_eq,
      UInt32.le_iff_toNat_le, ge_iff_le, Char.toNat_val, ← Char.toNat_inj] at range
    exact range
  have plain : ∀ c ∈ cs, isQuote c = false ∧ c ≠ '(' ∧ c ≠ ')' := fun c member =>
    plain_of_apart (p := fun c => c.isDigit || c == '.') (by decide) (digits c member)
  refine ⟨cs, ?_, depthAfter_of_plain (fun c member => (plain c member).2) 0,
    fun word member => ?_⟩
  · rw [String.toList_ofList]
    exact outside?_of_plain fun c member => isSqlQuote_eq_false (plain c member).1
  · refine occurs_of_gaps (isSolidWord_of_banned member) fun c among => ?_
    have range := code c among
    rw [← Bool.not_eq_true, isSolid_iff]
    omega

theorem isNumberText_cases (numeral : isNumberText digits = true) :
    (∃ rest, digits.toList = '-' :: rest ∧ ∀ c ∈ rest, (c.isDigit || c == '.') = true) ∨
      ∀ c ∈ digits.toList, (c.isDigit || c == '.') = true := by
  unfold isNumberText at numeral
  split at numeral
  · next rest split => exact .inl ⟨rest, split, List.all_eq_true.1 numeral⟩
  · exact .inr (List.all_eq_true.1 numeral)

theorem printNumber_passes (numeral : isNumberText digits = true) :
    Passes queries (printNumber digits) 0 0 := by
  rcases isNumberText_cases numeral with ⟨rest, split, digit⟩ | digit
  · have text : digits = "-" ++ String.ofList rest := by
      rw [← String.toList_inj, split]
      simp
    have signed : Passes queries ("-" ++ String.ofList rest) 0 0 := by
      refine (passes_of_digits digit).minus fun same => ?_
      rw [String.toList_ofList] at same
      exact absurd (digit '-' (List.mem_of_head? same)) (by decide)
    rw [printNumber, split, text]
    exact signed.brackets
  · unfold printNumber
    split
    · next rest split =>
        rw [split] at digit
        exact absurd (digit '-' (by simp)) (by decide)
    · rw [← String.ofList_toList (s := digits)]
      exact passes_of_digits digit

theorem printFragment_passes (passes : Passes queries sql 0 0) :
    Passes queries (printFragment sql) 0 0 := by
  unfold printFragment
  split
  · exact passes.trimmed
  · exact passes.trimmed.brackets

theorem null_passes : Passes queries "NULL" 0 0 :=
  .glue (by decide)

theorem printBool_passes (dialect : Dialect) (value : Bool) :
    Passes queries (printBool dialect value) 0 0 := by
  cases dialect <;> cases value <;> exact .glue (by decide)

theorem quoteText_passes (content : String) : Passes queries (quoteText content) 0 0 :=
  .enclose (by decide) content

theorem quoteName_passes (name : String) : Passes queries (quoteName name) 0 0 :=
  .enclose (by decide) name

theorem printColumn_passes (qualifier : Option String) (name : String) :
    Passes queries (printColumn qualifier name) 0 0 := by
  cases qualifier with
  | none => exact quoteName_passes name
  | some table => exact (quoteName_passes table).link 0 (by decide) (quoteName_passes name)

theorem printTyped_passes (dialect : Dialect) (type : SqlType) (content : String) :
    Passes queries (printTyped dialect type content) 0 0 := by
  cases dialect with
  | postgres =>
    have name : Passes queries (type.name .postgres) 0 0 := by
      cases type <;> exact .glue (by decide)
    exact name.link 0 (by decide) (quoteText_passes content)
  | sqlite => exact quoteText_passes content

theorem printNames_passes (names : List String) : Passes queries (printNames names) 0 0 := by
  refine .brackets (.joined (by decide) fun part member => ?_)
  obtain ⟨name, -, rfl⟩ := List.mem_map.1 member
  exact quoteName_passes name

theorem printClause_passes (check : (Passes.isGlue word 0 0 && endsApart word) = true)
    (each : ∀ item ∈ items, Passes queries item 0 0) :
    Passes queries (printClause word items) 0 0 := by
  unfold printClause
  split
  · exact .empty 0
  · exact .start 0 check (.joined (by decide) each)

theorem printClause_starts (starts : startsApart word = true) (items : List String) :
    printClause word items = "" ∨ startsApart (printClause word items) := by
  unfold printClause
  split
  · exact .inl rfl
  · exact .inr (startsApart_append _ starts)

theorem printOptional_starts (starts : startsApart word = true) (dialect : Dialect)
    (e? : Option Expr) :
    printOptional dialect word e? = "" ∨ startsApart (printOptional dialect word e?) := by
  cases e? with
  | none =>
    rw [printOptional]
    exact .inl rfl
  | some e =>
    rw [printOptional]
    exact .inr (startsApart_append _ starts)

theorem printBranches_starts (dialect : Dialect) (branches : List Branch) :
    printBranches dialect branches = "" ∨ startsApart (printBranches dialect branches) := by
  cases branches with
  | nil =>
    rw [printBranches]
    exact .inl rfl
  | cons branch rest =>
    obtain ⟨condition, value⟩ := branch
    rw [printBranches]
    have word : startsApart " WHEN " = true := by decide
    exact .inr (startsApart_append _ (startsApart_append _ (startsApart_append _
      (startsApart_append _ word))))

theorem printSource_starts (starts : startsApart before = true) (dialect : Dialect)
    (source : Option Source) :
    printSource dialect before after source = "" ∨
      startsApart (printSource dialect before after source) := by
  cases source with
  | none =>
    rw [printSource]
    exact .inl rfl
  | some source =>
    rw [printSource]
    exact .inr (startsApart_append _ (startsApart_append _ starts))

theorem printLabel_passes (label : Option String) : Passes queries (printLabel label) 0 0 := by
  cases label with
  | none => exact .empty 0
  | some label => exact .start 0 (by decide) (quoteName_passes label)

theorem printLabel_starts (label : Option String) :
    printLabel label = "" ∨ startsApart (printLabel label) := by
  cases label with
  | none => exact .inl rfl
  | some label => exact .inr (startsApart_append _ (by decide))

theorem printAlias_passes (dialect : Dialect) (label : String) (columns : List String) :
    Passes queries (printAlias dialect label columns) 0 0 := by
  have named : Passes queries (" AS " ++ quoteName label) 0 0 :=
    .start 0 (by decide) (quoteName_passes label)
  unfold printAlias
  cases dialect with
  | postgres =>
    dsimp only
    split
    · exact named.tail (.empty 0) (.inl rfl)
    · refine named.tail (printNames_passes columns) (.inr ?_)
      exact startsApart_append _ (startsApart_append _ (by decide))
  | sqlite => exact named.tail (.empty 0) (.inl rfl)

theorem printAlias_starts (dialect : Dialect) (label : String) (columns : List String) :
    startsApart (printAlias dialect label columns) = true :=
  startsApart_append _ (startsApart_append _ (by decide))

theorem head_of_isAtomic (atomic : isAtomic sql = true) : (trim sql.toList).head? ≠ some '-' := by
  intro starts
  obtain ⟨rest, split⟩ := List.head?_eq_some_iff.1 starts
  have quote : isQuote '-' = false := by decide
  have word : isWordChar '-' = false := by decide
  simp [isAtomic, split, isChain, quote, word] at atomic

theorem head_of_isFunctionName {rest : String} (function : isFunctionName name = true)
    (bracket : rest.toList.head? = some '(') : (name ++ rest).toList.head? ≠ some '-' := by
  rw [isFunctionName, Bool.and_eq_true, List.all_eq_true] at function
  rw [String.toList_append, List.head?_append]
  cases split : name.toList with
  | nil => simp [bracket]
  | cons c cs =>
    have word := function.1 c (by simp [split])
    intro starts
    cases starts
    exact absurd word (by decide)

theorem printNumber_head (digits : String) : (printNumber digits).toList.head? ≠ some '-' := by
  unfold printNumber
  split
  · simp
  · rename_i unsigned
    cases split : digits.toList with
    | nil => simp
    | cons c cs =>
      intro starts
      cases starts
      exact unsigned cs split

theorem Expr.Alike.print_head (alike : Expr.Alike l e e') (dialect : Dialect) :
    (e.print dialect).toList.head? ≠ some '-' := by
  cases alike with
  | null => simp [Expr.print]
  | bool value => cases dialect <;> cases value <;> simp [Expr.print, printBool]
  | number numeral =>
    rw [Expr.print]
    exact printNumber_head _
  | text content => simp +decide [Expr.print, quoteText, enclose]
  | typed type content =>
    cases dialect with
    | postgres => cases type <;> simp [Expr.print, printTyped, SqlType.name]
    | sqlite => simp +decide [Expr.print, printTyped, quoteText, enclose]
  | column qualifier name =>
    cases qualifier <;> simp +decide [Expr.print, printColumn, quoteName, enclose]
  | fragment texts =>
    rw [Expr.print, printFragment]
    split
    · rw [trimmed, String.toList_ofList]
      exact head_of_isAtomic ‹_›
    · simp
  | call name _ =>
    rw [Expr.print, String.append_assoc, String.append_assoc]
    exact head_of_isFunctionName name (by simp)
  | aggregate _ name _ _ =>
    rw [Expr.print, String.append_assoc, String.append_assoc, String.append_assoc]
    exact head_of_isFunctionName name (by simp)
  | window _ name _ _ _ =>
    simp only [Expr.print, String.append_assoc]
    exact head_of_isFunctionName name (by simp)
  | _ => simp [Expr.print]

theorem typeName_passes (dialect : Dialect) (type : SqlType) :
    Passes queries (type.name dialect) 0 0 := by
  cases dialect <;> cases type <;> exact .glue (by decide)

theorem symbol_isLink (op : BinOp) : Passes.isLink op.symbol 0 0 = true := by
  cases op <;> decide

section

variable (dialect : Dialect)

theorem printOptional_passes (check : (Passes.isGlue word 0 0 && endsApart word) = true)
    (inner : ∀ e ∈ e?, Passes queries (e.print dialect) 0 0) :
    Passes queries (printOptional dialect word e?) 0 0 := by
  cases e? with
  | none =>
    rw [printOptional]
    exact .empty 0
  | some e =>
    rw [printOptional]
    exact .start 0 check (inner e rfl)

theorem printBound_passes (inner : ∀ e ∈ e?, Passes queries (e.print dialect) 0 0) :
    Passes queries (printOptional dialect "" e?) 0 0 := by
  cases e? with
  | none =>
    rw [printOptional]
    exact .empty 0
  | some e =>
    rw [printOptional, String.empty_append]
    exact inner e rfl

theorem printSource_passes (check : (Passes.isGlue before 0 0 && endsApart before) = true)
    (ending : Passes queries after 0 0) (starts : after = "" ∨ startsApart after = true)
    (inner : ∀ place ∈ source, Passes queries (place.print dialect) 0 0) :
    Passes queries (printSource dialect before after source) 0 0 := by
  cases source with
  | none =>
    rw [printSource]
    exact .empty 0
  | some place =>
    rw [printSource]
    exact (Passes.start 0 check (inner place rfl)).tail ending starts

theorem printCommon_passes (columns : List String) (first : Passes queries anchor 0 0)
    (next : Passes queries step 0 0) :
    Passes queries (printCommon name columns anchor step) 0 0 := by
  have named : Passes queries ("WITH RECURSIVE " ++ quoteName name) 0 0 :=
    .start 0 (by decide) (quoteName_passes name)
  have starts : startsApart (printNames columns) = true :=
    startsApart_append _ (startsApart_append _ (by decide))
  exact (((named.tail (printNames_passes columns) (.inr starts)).link 1 (by decide) first).link 1
    (by decide) next).finish (by decide)

theorem printRecursion_ends (recursion : Option Recursion) :
    printRecursion dialect recursion = "" ∨
      endsApart (printRecursion dialect recursion) = true := by
  cases recursion with
  | none =>
    rw [printRecursion]
    exact .inl rfl
  | some recursion =>
    obtain ⟨name, columns, anchor, step⟩ := recursion
    rw [printRecursion]
    exact .inr (endsApart_append _ (by decide))

theorem window_passes (first : Passes queries (s ++ ") OVER (") 0 1)
    (parts : ∀ item ∈ printEach dialect part, Passes queries item 0 0)
    (keys : ∀ item ∈ printEach dialect order, Passes queries item 0 0) :
    Passes queries (s ++ ") OVER (" ++ printClause "PARTITION BY " (printEach dialect part) ++
      (if part.isEmpty || order.isEmpty then "" else " ") ++
      printClause "ORDER BY " (printEach dialect order) ++ ")") 0 0 := by
  have ends : endsApart (s ++ ") OVER (") = true := endsApart_append s (by decide)
  refine Passes.finish (show Passes queries _ 0 1 from ?_) (by decide)
  have sections : Passes queries (printClause "PARTITION BY " (printEach dialect part)) 0 0 :=
    printClause_passes (by decide) parts
  have sorted : Passes queries (printClause "ORDER BY " (printEach dialect order)) 0 0 :=
    printClause_passes (by decide) keys
  have opened := first.after_gap (sections.deeper 1) ends
  cases part with
  | nil =>
    have none : printClause "PARTITION BY " (printEach dialect []) = "" := by
      rw [printEach]
      rfl
    rw [none, List.isEmpty_nil, Bool.true_or, if_pos rfl, String.append_empty,
      String.append_empty]
    exact first.after_gap (sorted.deeper 1) ends
  | cons e rest =>
    cases order with
    | nil =>
      have none : printClause "ORDER BY " (printEach dialect []) = "" := by
        rw [printEach]
        rfl
      rw [none, List.isEmpty_nil, Bool.or_true, if_pos rfl, String.append_empty,
        String.append_empty]
      exact opened
    | cons key more =>
      rw [List.isEmpty_cons, List.isEmpty_cons, Bool.or_false, if_neg Bool.false_ne_true]
      exact opened.link 1 (by decide) sorted

theorem select_passes (allowed : queries = true)
    (common : Passes queries (printRecursion dialect recursion) 0 0)
    (list : ∀ part ∈ columns, Passes queries part 0 0)
    (origin : ∀ place ∈ source, Passes queries (place.print dialect) 0 0)
    (more : ∀ place ∈ join, Passes queries (place.print dialect) 0 0)
    (test : ∀ e ∈ filter, Passes queries (e.print dialect) 0 0)
    (keys : ∀ part ∈ order, Passes queries part 0 0) :
    Passes queries (printRecursion dialect recursion ++ "SELECT " ++ joined ", " columns ++
      printSource dialect " FROM " "" source ++ printSource dialect " LEFT JOIN " " ON TRUE" join ++
      printOptional dialect " WHERE " filter ++ printClause " ORDER BY " order) 0 0 := by
  cases allowed
  have word : Passes true "SELECT " 0 0 :=
    ⟨"SELECT ".toList, by decide, by decide, by decide⟩
  have opened : Passes true (printRecursion dialect recursion ++ "SELECT ") 0 0 := by
    rcases printRecursion_ends dialect recursion with none | apart
    · rwa [none, String.empty_append]
    · exact common.after_gap word apart
  exact ((((opened.after_gap (.joined (by decide) list) (endsApart_append _ (by decide))).tail
    (printSource_passes dialect (by decide) (.empty 0) (.inl rfl) origin)
    (printSource_starts (by decide) dialect source)).tail
    (printSource_passes dialect (by decide) (.glue (by decide)) (.inr (by decide)) more)
    (printSource_starts (by decide) dialect join)).tail
    (printOptional_passes dialect (by decide) test)
    (printOptional_starts (by decide) dialect filter)).tail
    (printClause_passes (by decide) keys) (printClause_starts (by decide) order)

end

section

variable {function operand other : String} {args items : List String}

section

variable (name : isFunctionName function = true)
  (each : ∀ part ∈ args, Passes queries part 0 0)

include name each

theorem call_passes : Passes queries (function ++ "(" ++ joined ", " args ++ ")") 0 0 :=
  ((passes_of_isFunctionName name).link 1 (by decide) (.joined (by decide) each)).finish
    (by decide)

theorem aggregate_passes (keys : ∀ part ∈ items, Passes queries part 0 0) :
    Passes queries
      (function ++ "(" ++ joined ", " args ++ printClause " ORDER BY " items ++ ")") 0 0 :=
  (((passes_of_isFunctionName name).link 1 (by decide) (.joined (by decide) each)).tail
    (printClause_passes (by decide) keys) (printClause_starts (by decide) _)).finish (by decide)

theorem overClause_passes :
    Passes queries (function ++ "(" ++ joined ", " args ++ ") OVER (") 0 1 :=
  ((passes_of_isFunctionName name).link 1 (by decide) (.joined (by decide) each)).finish
    (by decide)

end

theorem binary_passes (op : BinOp) (first : Passes queries operand 0 0)
    (second : Passes queries other 0 0) :
    Passes queries ("(" ++ operand ++ op.symbol ++ other ++ ")") 0 0 :=
  ((Passes.start 1 (by decide) first).link 1 (Passes.isLink_add 1 (symbol_isLink op))
    second).finish (by decide)

theorem unary_passes (op : UnOp) (inner : Passes queries operand 0 0)
    (starts : operand.toList.head? ≠ some '-') :
    Passes queries ("(" ++ op.symbol ++ operand ++ ")") 0 0 := by
  cases op with
  | not => exact (Passes.start 1 (by decide) inner).finish (by decide)
  | neg =>
    have signed := (inner.minus starts).brackets
    rwa [← String.append_assoc] at signed

theorem nullTest_passes (negated : Bool) (inner : Passes queries operand 0 0) :
    Passes queries
      ("(" ++ operand ++ (if negated then " IS NOT NULL)" else " IS NULL)")) 0 0 := by
  cases negated <;> exact (Passes.start 1 (by decide) inner).finish (by decide)

theorem member_passes (negated : Bool) (inner : Passes queries operand 0 0)
    (each : ∀ part ∈ items, Passes queries part 0 0) :
    Passes queries
      ("(" ++ operand ++ (if negated then " NOT IN (" else " IN (") ++ joined ", " items ++
        "))") 0 0 := by
  cases negated <;>
    exact ((Passes.start 1 (by decide) inner).link 2 (by decide)
      (.joined (by decide) each)).finish (by decide)

theorem cast_passes (dialect : Dialect) (type : SqlType) (inner : Passes queries operand 0 0) :
    Passes queries ("CAST(" ++ operand ++ " AS " ++ type.name dialect ++ ")") 0 0 :=
  ((Passes.start 1 (by decide) inner).link 1 (by decide)
    (typeName_passes dialect type)).finish (by decide)

theorem case_passes (dialect : Dialect)
    (inner : ∀ e ∈ subject, Passes queries (e.print dialect) 0 0)
    (each : Passes queries branches 0 0) (starts : branches = "" ∨ startsApart branches = true)
    (last : ∀ e ∈ otherwise, Passes queries (e.print dialect) 0 0) :
    Passes queries ("CASE" ++ printOptional dialect " " subject ++ branches ++
      printOptional dialect " ELSE " otherwise ++ " END") 0 0 := by
  have word : Passes queries "CASE" 0 0 := .glue (by decide)
  exact (((word.tail (printOptional_passes dialect (by decide) inner)
    (printOptional_starts (by decide) dialect subject)).tail each starts).tail
    (printOptional_passes dialect (by decide) last)
    (printOptional_starts (by decide) dialect otherwise)).finish (by decide)

theorem branch_passes (test : Passes queries operand 0 0) (result : Passes queries other 0 0)
    (more : Passes queries rest 0 0) (starts : rest = "" ∨ startsApart rest = true) :
    Passes queries (" WHEN " ++ operand ++ " THEN " ++ other ++ rest) 0 0 :=
  ((Passes.start 0 (by decide) test).link 0 (by decide) result).tail more starts

theorem atTimeZone_passes (inner : Passes queries operand 0 0) (place : Passes queries other 0 0) :
    Passes queries ("(" ++ operand ++ " AT TIME ZONE " ++ other ++ ")") 0 0 :=
  ((Passes.start 1 (by decide) inner).link 1 (by decide) place).finish (by decide)

theorem extract_passes (name : isFunctionName field = true) (inner : Passes queries operand 0 0) :
    Passes queries ("EXTRACT(" ++ field ++ " FROM " ++ operand ++ ")") 0 0 :=
  ((Passes.start 1 (by decide) (passes_of_isFunctionName name)).link 1 (by decide) inner).finish
    (by decide)

theorem subscript_passes (inner : Passes queries operand 0 0)
    (position : Passes queries other 0 0) :
    Passes queries ("(" ++ operand ++ ")[" ++ other ++ "]") 0 0 :=
  ((Passes.start 1 (by decide) inner).link 0 (by decide) position).finish (by decide)

theorem slice_passes (inner : Passes queries operand 0 0) (first : Passes queries other 0 0)
    (last : Passes queries upper 0 0) :
    Passes queries ("(" ++ operand ++ ")[" ++ other ++ ":" ++ upper ++ "]") 0 0 :=
  (((Passes.start 1 (by decide) inner).link 0 (by decide) first).link 0 (by decide) last).finish
    (by decide)

theorem functionSource_passes (dialect : Dialect) (ordinality : Bool) (label : String)
    (columns : List String) (rows : Passes queries operand 0 0) :
    Passes queries ((operand ++ if ordinality then " WITH ORDINALITY" else "") ++
      printAlias dialect label columns) 0 0 := by
  refine Passes.tail ?_ (printAlias_passes dialect label columns)
    (.inr (printAlias_starts dialect label columns))
  cases ordinality with
  | false => exact rows.tail (.empty 0) (.inl rfl)
  | true => exact rows.finish (by decide)

theorem unionSource_passes (dialect : Dialect) (label : String) (columns : List String)
    (each : ∀ part ∈ items, Passes queries part 0 0) :
    Passes queries ("(" ++ joined " UNION ALL " items ++ ")" ++
      printAlias dialect label columns) 0 0 :=
  (Passes.brackets (.joined (by decide) each)).tail (printAlias_passes dialect label columns)
    (.inr (printAlias_starts dialect label columns))

end

/-- The texts that may be fragments pass, and queries are allowed where there may be some. -/
structure Likeness.Lexical (l : Likeness) (queries : Bool) : Prop where
  texts : ∀ {sql sql' : String}, l.texts sql sql' → Passes queries sql 0 0
  queries : l.queries → queries = true

section

variable {l : Likeness} (lexical : l.Lexical queries) (dialect : Dialect)

include lexical

-- Some need it for what they call alone.
set_option linter.unusedSectionVars false in
mutual

theorem Expr.Alike.passes : Expr.Alike l e e' → Passes queries (e.print dialect) 0 0
  | .null => by
    rw [Expr.print]
    exact null_passes
  | .bool value => by
    rw [Expr.print]
    exact printBool_passes dialect value
  | .number numeral => by
    rw [Expr.print]
    exact printNumber_passes numeral
  | .text content => by
    rw [Expr.print]
    exact quoteText_passes content
  | .typed type content => by
    rw [Expr.print]
    exact printTyped_passes dialect type content
  | .column qualifier name => by
    rw [Expr.print]
    exact printColumn_passes qualifier name
  | .fragment texts => by
    rw [Expr.print]
    exact printFragment_passes (lexical.texts texts)
  | .call name each => by
    rw [Expr.print]
    exact call_passes name (each.passes)
  | .aggregate _ name each keys => by
    rw [Expr.print]
    exact aggregate_passes name (each.passes) (keys.passes)
  | .window _ name each parts keys => by
    rw [Expr.print]
    exact window_passes dialect (overClause_passes name (each.passes))
      (parts.passes) (keys.passes)
  | .binary op first second => by
    rw [Expr.print]
    exact binary_passes op (first.passes) (second.passes)
  | .chain op each => by
    rw [Expr.print]
    exact .brackets (.joined (symbol_isLink op) (each.passes))
  | .unary op inner => by
    rw [Expr.print]
    exact unary_passes op (inner.passes) (inner.print_head dialect)
  | .nullTest negated inner => by
    rw [Expr.print]
    exact nullTest_passes negated (inner.passes)
  | .member negated inner each => by
    rw [Expr.print]
    exact member_passes negated (inner.passes) (each.passes)
  | .cast type inner => by
    rw [Expr.print]
    exact cast_passes dialect type (inner.passes)
  | .case inner each last => by
    rw [Expr.print]
    exact case_passes dialect (inner.passes) (each.passes)
      (printBranches_starts dialect _) (last.passes)
  | .atTimeZone inner place => by
    rw [Expr.print]
    exact atTimeZone_passes (inner.passes) (place.passes)
  | .extract name inner => by
    rw [Expr.print]
    exact extract_passes name (inner.passes)
  | .subscript inner position => by
    rw [Expr.print]
    exact subscript_passes (inner.passes) (position.passes)
  | .slice inner first last => by
    rw [Expr.print]
    exact slice_passes (inner.passes)
      (printBound_passes dialect (first.passes))
      (printBound_passes dialect (last.passes))
  | .subquery allowed inner => by
    rw [Expr.print]
    exact (inner.passes (lexical.queries allowed)).brackets

theorem AllAlike.passes :
    AllAlike l list list' → ∀ part ∈ printEach dialect list, Passes queries part 0 0
  | .nil => by simp [printEach]
  | .cons head tail => by
    rw [printEach, List.forall_mem_cons]
    exact ⟨head.passes, tail.passes⟩

theorem MaybeAlike.passes : MaybeAlike l e? e?' → ∀ e ∈ e?, Passes queries (e.print dialect) 0 0
  | .none => by simp
  | .some inner => by
    rintro e ⟨⟩
    exact inner.passes

theorem BranchesAlike.passes :
    BranchesAlike l branches branches' → Passes queries (printBranches dialect branches) 0 0
  | .nil => by
    rw [printBranches]
    exact .empty 0
  | .cons test result tail => by
    rw [printBranches]
    exact branch_passes (test.passes) (result.passes)
      (tail.passes) (printBranches_starts dialect _)

theorem ProjectionsAlike.passes :
    ProjectionsAlike l columns columns' →
      ∀ part ∈ printProjections dialect columns, Passes queries part 0 0
  | .nil => by simp [printProjections]
  | .cons label head tail => by
    rw [printProjections, List.forall_mem_cons]
    exact ⟨(head.passes).tail (printLabel_passes label) (printLabel_starts label),
      tail.passes⟩

theorem Select.Alike.passes (allowed : queries = true) :
    Select.Alike l query query' → Passes queries (query.print dialect) 0 0
  | .mk _ common list origin more test keys => by
    rw [Select.print]
    exact select_passes dialect allowed (common.passes allowed)
      (list.passes) (origin.passes allowed)
      (more.passes allowed) (test.passes)
      (keys.passes)

theorem RecursionAlike.passes (allowed : queries = true) :
    RecursionAlike l recursion recursion' → Passes queries (printRecursion dialect recursion) 0 0
  | .none => by
    rw [printRecursion]
    exact .empty 0
  | .some name columns first next => by
    rw [printRecursion]
    exact printCommon_passes columns (first.passes allowed)
      (next.passes allowed)

theorem SourceAlike.passes (allowed : queries = true) :
    SourceAlike l source source' →
      ∀ place ∈ source, Passes queries (place.print dialect) 0 0
  | .none => by simp
  | .table name => by
    rintro place ⟨⟩
    rw [Source.print]
    exact quoteName_passes name
  | .function ordinality label columns rows => by
    rintro place ⟨⟩
    rw [Source.print]
    exact functionSource_passes dialect ordinality label columns (rows.passes)
  | .union label columns each => by
    rintro place ⟨⟩
    rw [Source.print]
    exact unionSource_passes dialect label columns (each.passes allowed)

theorem SelectsAlike.passes (allowed : queries = true) :
    SelectsAlike l list list' → ∀ part ∈ printSelects dialect list, Passes queries part 0 0
  | .nil => by simp [printSelects]
  | .cons head tail => by
    rw [printSelects, List.forall_mem_cons]
    exact ⟨head.passes allowed, tail.passes allowed⟩

end

end

end SheetSql
