import SheetSql.Proofs.Reading.Layer

namespace SheetSql.Reading

/-! Printed expressions are read back as they were, whatever follows them. -/

open Text Sql

def parts : Expr → List Expr
  | .null | .bool _ | .number _ | .text _ | .typed _ _ | .column _ _ | .fragment _ => []
  | .aggregate _ _ _ | .window _ _ _ _ | .subquery _ => []
  | .call _ args => args
  | .chain _ items => items
  | .member operand list _ => operand :: list
  | .unary _ operand | .nullTest operand _ | .cast operand _ | .extract _ operand => [operand]
  | .binary one _ other | .atTimeZone one other | .subscript one other => [one, other]
  | .case subject branches otherwise =>
    subject.toList ++ branches.flatMap (fun branch => [branch.condition, branch.value]) ++
      otherwise.toList
  | .slice array lower upper => array :: (lower.toList ++ upper.toList)

theorem isReadable_of_mem (readable : allReadable items = true) (member : e ∈ items) :
    isReadable e = true := by
  induction items with
  | nil => cases member
  | cons item items ih =>
    simp only [allReadable, Bool.and_eq_true] at readable
    rcases List.mem_cons.1 member with rfl | later
    · exact readable.1
    · exact ih readable.2 later

theorem isReadable_of_mem_toList (readable : optionReadable e? = true) (member : e ∈ e?.toList) :
    isReadable e = true := by
  rw [Option.mem_toList] at member
  rwa [member, optionReadable] at readable

theorem isReadable_of_mem_branches (readable : branchesReadable branches = true)
    (member : branch ∈ branches) :
    isReadable branch.condition = true ∧ isReadable branch.value = true := by
  induction branches with
  | nil => cases member
  | cons first branches ih =>
    obtain ⟨condition, value⟩ := first
    simp only [branchesReadable, Bool.and_eq_true] at readable
    rcases List.mem_cons.1 member with rfl | later
    · exact readable.1
    · exact ih readable.2 later

theorem isReadable_of_mem_parts (readable : isReadable e = true) (member : part ∈ parts e) :
    isReadable part = true := by
  cases e with
  | null | bool _ | number _ | text _ | typed _ _ | column _ _ | fragment _ | aggregate _ _ _
  | window _ _ _ _ | subquery _ => cases member
  | call function args | chain op args =>
    simp only [isReadable, Bool.and_eq_true] at readable
    exact isReadable_of_mem readable.2 member
  | member operand list negated =>
    simp only [isReadable, Bool.and_eq_true] at readable
    rcases List.mem_cons.1 member with rfl | later
    · exact readable.1
    · exact isReadable_of_mem readable.2 later
  | unary _ operand | nullTest operand _ | cast operand _ =>
    rw [isReadable] at readable
    rwa [List.mem_singleton.1 member]
  | extract field operand =>
    simp only [isReadable, Bool.and_eq_true] at readable
    rw [List.mem_singleton.1 member]
    exact readable.2
  | binary one _ other | atTimeZone one other | subscript one other =>
    simp only [isReadable, Bool.and_eq_true] at readable
    simp only [parts, List.mem_cons, List.not_mem_nil, or_false] at member
    rcases member with rfl | rfl
    · exact readable.1
    · exact readable.2
  | case subject branches otherwise =>
    simp only [isReadable, Bool.and_eq_true] at readable
    obtain ⟨⟨first, each⟩, last⟩ := readable
    simp only [parts, List.mem_append, List.mem_flatMap, List.mem_cons, List.not_mem_nil,
      or_false] at member
    rcases member with (here | ⟨branch, among, rfl | rfl⟩) | here
    · exact isReadable_of_mem_toList first here
    · exact (isReadable_of_mem_branches each among).1
    · exact (isReadable_of_mem_branches each among).2
    · exact isReadable_of_mem_toList last here
  | slice array lower upper =>
    simp only [isReadable, Bool.and_eq_true] at readable
    obtain ⟨⟨first, second⟩, third⟩ := readable
    simp only [parts, List.mem_cons, List.mem_append] at member
    rcases member with rfl | here | here
    · exact first
    · exact isReadable_of_mem_toList second here
    · exact isReadable_of_mem_toList third here

theorem length_toList_append (s t : String) :
    (s ++ t).toList.length = s.toList.length + t.toList.length := by
  rw [String.toList_append, List.length_append]

theorem length_le_joined (separator : String) (member : e ∈ items) :
    (e.print .postgres).toList.length ≤
      (joined separator (printEach .postgres items)).toList.length := by
  induction items with
  | nil => cases member
  | cons item items ih =>
    cases items with
    | nil =>
      rw [List.mem_singleton.1 member]
      simp [printEach]
    | cons next items =>
      rw [printEach, printEach, joined_cons_cons, ← printEach]
      simp only [length_toList_append]
      rcases List.mem_cons.1 member with rfl | later
      · omega
      · have inner := ih later
        omega

theorem length_le_printBranches (member : branch ∈ branches) :
    (branch.condition.print .postgres).toList.length ≤
        (printBranches .postgres branches).toList.length ∧
      (branch.value.print .postgres).toList.length ≤
        (printBranches .postgres branches).toList.length := by
  induction branches with
  | nil => cases member
  | cons first branches ih =>
    obtain ⟨condition, value⟩ := first
    simp only [printBranches, length_toList_append]
    rcases List.mem_cons.1 member with rfl | later
    · constructor <;> simp only <;> omega
    · have inner := ih later
      constructor <;> omega

theorem length_le_printOptional (lead : String) {e? : Option Expr} (member : e ∈ e?.toList) :
    (e.print .postgres).toList.length ≤ (printOptional .postgres lead e?).toList.length := by
  rw [Option.mem_toList] at member
  rw [member, printOptional, length_toList_append]
  omega

theorem length_lt_of_mem_parts (member : part ∈ parts e) :
    (part.print .postgres).toList.length < (e.print .postgres).toList.length := by
  cases e with
  | null | bool _ | number _ | text _ | typed _ _ | column _ _ | fragment _ | aggregate _ _ _
  | window _ _ _ _ | subquery _ => cases member
  | call function args =>
    change part ∈ args at member
    have inner := length_le_joined ", " member
    simp only [Expr.print, length_toList_append, String.reduceToList, List.length_cons]
    omega
  | chain op items =>
    change part ∈ items at member
    have inner := length_le_joined op.symbol member
    simp only [Expr.print, length_toList_append, String.reduceToList, List.length_cons]
    omega
  | member operand list negated =>
    simp only [Expr.print, length_toList_append, String.reduceToList, List.length_cons]
    rcases List.mem_cons.1 member with rfl | later
    · omega
    · have inner := length_le_joined ", " later
      omega
  | unary _ operand | nullTest operand _ | cast operand _ | extract _ operand =>
    rw [List.mem_singleton.1 member]
    simp only [Expr.print, length_toList_append, String.reduceToList, List.length_cons]
    omega
  | binary one _ other | atTimeZone one other | subscript one other =>
    simp only [parts, List.mem_cons, List.not_mem_nil, or_false] at member
    simp only [Expr.print, length_toList_append, String.reduceToList, List.length_cons]
    rcases member with rfl | rfl <;> omega
  | case subject branches otherwise =>
    simp only [parts, List.mem_append, List.mem_flatMap, List.mem_cons, List.not_mem_nil,
      or_false] at member
    simp only [Expr.print, length_toList_append, String.reduceToList, List.length_cons]
    rcases member with (here | ⟨branch, among, rfl | rfl⟩) | here
    · have inner := length_le_printOptional " " here
      omega
    · have inner := length_le_printBranches among
      omega
    · have inner := length_le_printBranches among
      omega
    · have inner := length_le_printOptional " ELSE " here
      omega
  | slice array lower upper =>
    simp only [parts, List.mem_cons, List.mem_append] at member
    simp only [Expr.print, length_toList_append, String.reduceToList, List.length_cons]
    rcases member with rfl | here | here
    · omega
    · have inner := length_le_printOptional "" here
      omega
    · have inner := length_le_printOptional "" here
      omega

theorem readExpr_print (readable : isReadable e = true)
    (bound : (e.print .postgres).toList.length ≤ fuel) : Reads (readExpr fuel) e := by
  induction fuel generalizing e with
  | zero =>
    have filled := print_length_pos readable
    omega
  | succ fuel ih =>
    -- The parts have fewer characters, so one layer less is enough for each of them.
    have part : ∀ p ∈ parts e, Part (readExpr fuel) p := by
      intro p member
      have inner := isReadable_of_mem_parts readable member
      have shorter := length_lt_of_mem_parts member
      exact ⟨inner, ih inner (by omega)⟩
    rw [readExpr]
    cases e with
    | null => exact reads_null
    | bool value => exact reads_bool value
    | number digits => exact reads_number (by simpa [isReadable] using readable)
    | text content => exact reads_text content
    | column qualifier name => exact reads_column qualifier name
    | call function args =>
      simp only [isReadable, Bool.and_eq_true, bne_iff_ne] at readable
      obtain ⟨⟨⟨word, cast⟩, extract⟩, -⟩ := readable
      exact reads_call word ⟨cast, extract⟩ part
    | binary left op right =>
      exact reads_binary op (part left (by simp [parts])) (part right (by simp [parts]))
    | chain op items =>
      simp only [isReadable, Bool.and_eq_true, decide_eq_true_eq] at readable
      exact reads_chain op readable.1 part
    | unary op operand => exact reads_unary op (part operand (by simp [parts]))
    | nullTest operand negated =>
      exact reads_nullTest (part operand (by simp [parts])) negated
    | member operand list negated =>
      exact reads_member (part operand (by simp [parts]))
        (fun e among => part e (by simp [parts, among])) negated
    | cast operand type => exact reads_cast (part operand (by simp [parts])) type
    | case subject branches otherwise =>
      refine reads_case (fun e here => part e (by simp_all [parts]))
        (fun branch among => ⟨part _ ?_, part _ ?_⟩) fun e here => part e (by simp_all [parts])
      · simp only [parts, List.mem_append, List.mem_flatMap]
        exact .inl (.inr ⟨branch, among, by simp⟩)
      · simp only [parts, List.mem_append, List.mem_flatMap]
        exact .inl (.inr ⟨branch, among, by simp⟩)
    | atTimeZone operand zone =>
      exact reads_atTimeZone (part operand (by simp [parts])) (part zone (by simp [parts]))
    | extract field operand =>
      simp only [isReadable, Bool.and_eq_true] at readable
      exact reads_extract readable.1 (part operand (by simp [parts]))
    | subscript array index =>
      exact reads_subscript (part array (by simp [parts])) (part index (by simp [parts]))
    | slice array lower upper =>
      exact reads_slice (part array (by simp [parts]))
        (fun e here => part e (by simp_all [parts]))
        (fun e here => part e (by simp_all [parts]))
    | typed type content | fragment sql | aggregate function args order
    | window function args part order | subquery query => simp [isReadable] at readable

/--
No two readable expressions have the same text. Where one of them stands at the start of a longer
text, that text says which one it is and where it ends.
-/
theorem eq_of_print_eq {e e' : Expr} (one : isReadable e = true) (other : isReadable e' = true) :
    (e.print .postgres = e'.print .postgres → e = e') ∧
    ∀ rest rest' : List Char, isBreak rest = true → isBreak rest' = true →
      (e.print .postgres).toList ++ rest = (e'.print .postgres).toList ++ rest' →
      e = e' ∧ rest = rest' := by
  have first := readExpr_print one (Nat.le_max_left _ (e'.print .postgres).toList.length)
  have second := readExpr_print other (Nat.le_max_right (e.print .postgres).toList.length _)
  have unique : ∀ rest rest' : List Char, isBreak rest = true → isBreak rest' = true →
      (e.print .postgres).toList ++ rest = (e'.print .postgres).toList ++ rest' →
      e = e' ∧ rest = rest' := by
    intro rest rest' ends ends' same
    have found := first rest ends
    rw [same, second rest' ends'] at found
    cases found
    exact ⟨rfl, rfl⟩
  refine ⟨fun same => ?_, unique⟩
  exact (unique [] [] rfl rfl (by rw [same])).1

def chainedDifference : Expr :=
  .chain .sub [.column (some "t") "a", .unary .neg (.number "1.50"), .text "it's"]

def nestedDifference : Expr :=
  .binary (.binary (.column (some "t") "a") .sub (.unary .neg (.number "1.50"))) .sub (.text "it's")

theorem eq_of_print_eq_difference :
    isReadable chainedDifference = true ∧ isReadable nestedDifference = true ∧
      chainedDifference.print .postgres ≠ nestedDifference.print .postgres := by
  have chained : isReadable chainedDifference = true := by decide
  have nested : isReadable nestedDifference = true := by decide
  refine ⟨chained, nested, fun same => ?_⟩
  have equal := (eq_of_print_eq chained nested).1 same
  simp [chainedDifference, nestedDifference] at equal

end SheetSql.Reading
