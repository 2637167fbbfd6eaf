import SheetSql.Proofs.Reading.Start

namespace SheetSql.Reading

/-!
The reader reads one layer of a printed expression back, given that it reads the parts of the
layer back.
-/

open Text Sql

def Reads (read : Reader) (e : Expr) : Prop :=
  ∀ rest, isBreak rest = true → read ((e.print .postgres).toList ++ rest) = some (e, rest)

/-- A readable expression that `read` reads back. -/
structure Part (read : Reader) (e : Expr) : Prop where
  readable : isReadable e = true
  reads : Reads read e

section

variable {read : Reader}

structure Separates (separator close : String) : Prop where
  between : ∀ rest, isBreak (separator.toList ++ rest) = true
  last : ∀ rest, isBreak (close.toList ++ rest) = true
  apart : ∀ rest, after? separator (close.toList ++ rest) = none

theorem comma_separates (bracket : close = ")" ∨ close = "))") : Separates ", " close := by
  rcases bracket with rfl | rfl <;> exact ⟨fun _ => rfl, fun _ => rfl, fun _ => rfl⟩

theorem symbol_separates (op : BinOp) : Separates op.symbol ")" := by
  cases op <;> exact ⟨fun _ => rfl, fun _ => rfl, fun _ => rfl⟩

theorem readItems_print (separates : Separates separator close) (filled : items ≠ [])
    (room : items.length ≤ fuel) (each : ∀ e ∈ items, Part read e) (rest : List Char) :
    readItems read separator close fuel
        ((joined separator (printEach .postgres items)).toList ++ (close.toList ++ rest)) =
      some (items, rest) := by
  induction items generalizing fuel with
  | nil => exact absurd rfl filled
  | cons item items ih =>
    have started : fuel ≠ 0 := by
      rw [List.length_cons] at room
      omega
    obtain ⟨fuel, rfl⟩ := Nat.exists_eq_add_one_of_ne_zero started
    have first := (each item (by simp)).reads
    -- What follows the item is `close` for the last one, and `separator` for all others.
    cases items with
    | nil =>
      rw [printEach, printEach, joined_singleton, readItems, first _ (separates.last rest)]
      simp [separates.apart rest]
    | cons next items =>
      rw [printEach, printEach, joined_cons_cons, ← printEach, String.toList_append,
        String.toList_append, List.append_assoc, List.append_assoc, readItems,
        first _ (separates.between _)]
      have fewer : (next :: items).length ≤ fuel := by simpa using room
      have later := ih (by simp) fewer fun e member => each e (by simp [member])
      simp [later]

theorem count_le_text (each : ∀ e ∈ items, Part read e) (separator : String) (rest : List Char) :
    items.length ≤ ((joined separator (printEach .postgres items)).toList ++ rest).length := by
  have inner := count_le_joined separator fun e member => (each e member).readable
  rw [List.length_append]
  omega

theorem readList_print (bracket : close = ")" ∨ close = "))") (each : ∀ e ∈ items, Part read e)
    (rest : List Char) :
    readList read close
        ((joined ", " (printEach .postgres items)).toList ++ (close.toList ++ rest)) =
      some (items, rest) := by
  cases items with
  | nil =>
    rw [readList, printEach, joined_nil, String.toList_empty, List.nil_append, after?_append]
  | cons item items =>
    have starts := print_starts (each item (by simp)).readable
    have first : close.toList.head? = some ')' := by rcases bracket with rfl | rfl <;> rfl
    have more : after? close ((joined ", " (printEach .postgres (item :: items))).toList ++
        (close.toList ++ rest)) = none := by
      cases items with
      | nil => exact starts.after?_eq_none first rfl _
      | cons next items =>
        rw [printEach, printEach, joined_cons_cons]
        simp only [String.toList_append, List.append_assoc]
        exact starts.after?_eq_none first rfl _
    rw [readList, more]
    exact readItems_print (comma_separates bracket) (by simp) (count_le_text each _ _) each rest

theorem mem_joints (joint : Joint) : joint ∈ joints := by
  cases joint with
  | operator op => cases op <;> decide
  | nullTest negated | member negated => cases negated <;> decide
  | zone | index => decide

theorem joints_isPrefixFree : isPrefixFree joints Joint.text = true := by decide +kernel

theorem isBreak_joint (joint : Joint) (cs : List Char) :
    isBreak (joint.text.toList ++ cs) = true := by
  cases joint with
  | operator op => cases op <;> rfl
  | nullTest negated | member negated => cases negated <;> rfl
  | zone | index => rfl

theorem unary_not_print (readable : isReadable e = true) (ends : isBreak rest = true) :
    firstOf? [UnOp.not, UnOp.neg] UnOp.symbol ((e.print .postgres).toList ++ rest) = none := by
  have starts := print_starts readable
  have negation : after? UnOp.not.symbol ((e.print .postgres).toList ++ rest) = none := by
    rw [Option.eq_none_iff_forall_not_mem]
    intro more found
    have word : bareWord ((e.print .postgres).toList ++ rest) = "NOT".toList := by
      rw [after?_eq_some_iff.1 found]
      change bareWord ("NOT".toList ++ ' ' :: more) = _
      exact bareWord_append (isWord_iff.1 (show isWord "NOT" = true by decide)).2 rfl (by simp)
    have free := starts.isReserved_bareWord ends
    rw [word] at free
    exact absurd free (by decide)
  have minus : after? UnOp.neg.symbol ((e.print .postgres).toList ++ rest) = none :=
    starts.after?_eq_none rfl rfl rest
  simp [firstOf?, negation, minus]

theorem readOperation_joint (part : Part read first) (joint : Joint) (cs : List Char) :
    readOperation read ((first.print .postgres).toList ++ (joint.text.toList ++ cs)) =
      readJoint read first cs joint := by
  have ends := isBreak_joint joint cs
  rw [readOperation, unary_not_print part.readable ends, part.reads _ ends]
  simp [firstOf?_append joints_isPrefixFree (mem_joints joint)]

theorem readLayer_bracket (cs : List Char) :
    readLayer read ("(".toList ++ cs) = readOperation read cs := rfl

theorem reads_operation {e : Expr} (part : Part read first) (joint : Joint) (tail : String)
    (text : e.print .postgres = "(" ++ first.print .postgres ++ joint.text ++ tail)
    (later : ∀ rest, isBreak rest = true →
      readJoint read first (tail.toList ++ rest) joint = some (e, rest)) :
    Reads (readLayer read) e := by
  intro rest ends
  rw [text]
  simp only [String.toList_append, List.append_assoc]
  rw [readLayer_bracket, readOperation_joint part joint]
  exact later rest ends

theorem print_operation (op : BinOp) (first : Expr) (filled : items ≠ []) :
    (operation op first items).print .postgres = "(" ++ first.print .postgres ++ op.symbol ++
      (joined op.symbol (printEach .postgres items) ++ ")") := by
  match items with
  | [second] => simp [operation, Expr.print, printEach, String.append_assoc]
  | second :: third :: items =>
    simp [operation, Expr.print, printEach, String.append_assoc]

theorem reads_infix (op : BinOp) (part : Part read first) (filled : items ≠ [])
    (each : ∀ e ∈ items, Part read e) : Reads (readLayer read) (operation op first items) := by
  refine reads_operation part (.operator op) _ (print_operation op first filled) fun rest _ => ?_
  rw [String.toList_append, List.append_assoc, readJoint,
    readItems_print (symbol_separates op) filled (count_le_text each _ _) each]
  rfl

theorem reads_binary (op : BinOp) (first : Part read left) (second : Part read right) :
    Reads (readLayer read) (.binary left op right) := by
  change Reads _ (operation op left [right])
  refine reads_infix op first (List.cons_ne_nil right []) fun e member => ?_
  rw [List.mem_singleton.1 member]
  exact second

theorem reads_chain {items : List Expr} (op : BinOp) (long : 3 ≤ items.length)
    (each : ∀ e ∈ items, Part read e) : Reads (readLayer read) (.chain op items) := by
  match items with
  | first :: second :: third :: items =>
    change Reads _ (operation op first (second :: third :: items))
    exact reads_infix op (each first (by simp)) (List.cons_ne_nil second _)
      fun e member => each e (List.mem_cons_of_mem _ member)

theorem reads_nullTest (part : Part read operand) (negated : Bool) :
    Reads (readLayer read) (.nullTest operand negated) := by
  refine reads_operation part (.nullTest negated) "" ?_ fun rest _ => rfl
  rw [Expr.print, Joint.text, String.append_empty]

theorem reads_member (part : Part read operand) (each : ∀ e ∈ list, Part read e) (negated : Bool) :
    Reads (readLayer read) (.member operand list negated) := by
  refine reads_operation part (.member negated)
    (joined ", " (printEach .postgres list) ++ "))") ?_ fun rest _ => ?_
  · simp only [Expr.print, Joint.text, String.append_assoc]
  · rw [String.toList_append, List.append_assoc, readJoint,
      readList_print (.inr rfl) each]
    rfl

theorem reads_atTimeZone (part : Part read operand) (second : Part read zone) :
    Reads (readLayer read) (.atTimeZone operand zone) := by
  refine reads_operation part .zone (zone.print .postgres ++ ")") ?_ fun rest _ => ?_
  · simp only [Expr.print, Joint.text, String.append_assoc]
  · rw [String.toList_append, List.append_assoc, readJoint, second.reads _ rfl]
    rfl

theorem reads_unary (op : UnOp) (part : Part read operand) :
    Reads (readLayer read) (.unary op operand) := by
  intro rest ends
  simp only [Expr.print, String.toList_append, List.append_assoc]
  have free : isPrefixFree [UnOp.not, UnOp.neg] UnOp.symbol = true := by decide
  have among : op ∈ [UnOp.not, UnOp.neg] := by cases op <;> decide
  rw [readLayer_bracket, readOperation, firstOf?_append free among]
  change (read _).bind _ = _
  rw [part.reads _ rfl]
  rfl

def OptionalPart (read : Reader) (e? : Option Expr) : Prop := ∀ e ∈ e?, Part read e

theorem readBound_print (part : OptionalPart read e?) (rest : List Char) :
    readBound read "]" ((printOptional .postgres "" e?).toList ++ ("]".toList ++ rest)) =
      some (e?, rest) := by
  cases e? with
  | none => rfl
  | some e =>
    have inner := part e rfl
    rw [printOptional, String.empty_append, readBound,
      (print_starts inner.readable).after?_eq_none rfl rfl, inner.reads _ rfl]
    rfl

theorem reads_subscript (part : Part read array) (second : Part read index) :
    Reads (readLayer read) (.subscript array index) := by
  refine reads_operation part .index (index.print .postgres ++ "]") ?_ fun rest _ => ?_
  · simp only [Expr.print, Joint.text, String.append_assoc]
  · rw [String.toList_append, List.append_assoc, readJoint, readIndex,
      (print_starts second.readable).after?_eq_none rfl rfl, second.reads _ rfl]
    rfl

theorem reads_slice (part : Part read array) (first : OptionalPart read lower)
    (second : OptionalPart read upper) : Reads (readLayer read) (.slice array lower upper) := by
  refine reads_operation part .index (printOptional .postgres "" lower ++ ":" ++
    printOptional .postgres "" upper ++ "]") ?_ fun rest _ => ?_
  · simp only [Expr.print, Joint.text, String.append_assoc]
  · simp only [String.toList_append, List.append_assoc]
    rw [readJoint, readIndex]
    have bound := readBound_print second rest
    cases lower with
    | none =>
      rw [printOptional, String.toList_empty, List.nil_append, after?_append]
      simp only [Option.bind_eq_bind, bound]
      rfl
    | some e =>
      have inner := first e rfl
      have onward : ∀ cs, after? "]" (":".toList ++ cs) = none := fun cs => rfl
      rw [printOptional, String.empty_append,
        (print_starts inner.readable).after?_eq_none rfl rfl, inner.reads _ rfl]
      simp only [Option.bind_eq_bind, Option.bind_some, onward, after?_append, bound]
      rfl

theorem readLayer_word (word : isWord name = true) (cs : List Char) :
    readLayer read (name.toList ++ cs) = readWord read (name.toList ++ cs) := by
  obtain ⟨filled, all⟩ := isWord_iff.1 word
  obtain ⟨c, more, split⟩ := List.exists_cons_of_ne_nil filled
  have inner : isWordChar c = true := all c (by simp [split])
  have mark : ∀ d, isWordChar d = false → c ≠ d := by
    rintro d outer rfl
    exact Bool.noConfusion (inner.symm.trans outer)
  rw [split, List.cons_append, readLayer, if_neg (mark _ (by decide)), if_neg (mark _ (by decide)),
    if_neg (mark _ (by decide))]

theorem readLayer_applied (word : isWord name = true) (cs : List Char) :
    readLayer read (name.toList ++ ("(".toList ++ cs)) = readApplied read name cs := by
  have all := (isWord_iff.1 word).2
  have ends : endsWord ("(".toList ++ cs) = true := rfl
  rw [readLayer_word word, readWord, afterWord_append all ends, wordOf_append all ends,
    String.ofList_toList]
  rfl

theorem readLayer_bare {name : String} (word : isWord name = true) {cs : List Char}
    (ends : endsWord cs = true) (bare : cs.head? ≠ some '(') :
    readLayer read (name.toList ++ cs) = readBare read name cs := by
  have all := (isWord_iff.1 word).2
  rw [readLayer_word word, readWord, afterWord_append all ends, wordOf_append all ends,
    String.ofList_toList]
  split
  · simp at bare
  · rfl

theorem reads_call (word : isWord function = true) (own : function ≠ "CAST" ∧ function ≠ "EXTRACT")
    (each : ∀ e ∈ args, Part read e) : Reads (readLayer read) (.call function args) := by
  intro rest ends
  simp only [Expr.print, String.toList_append, List.append_assoc]
  rw [readLayer_applied word, readApplied, if_neg own.1, if_neg own.2,
    readList_print (.inl rfl) each]
  rfl

theorem mem_sqlTypes (type : SqlType) : type ∈ sqlTypes := by cases type <;> decide

theorem sqlTypes_isPrefixFree :
    isPrefixFree sqlTypes (fun type => type.name .postgres ++ ")") = true := by decide +kernel

theorem reads_cast (part : Part read operand) (type : SqlType) :
    Reads (readLayer read) (.cast operand type) := by
  intro rest ends
  have named := firstOf?_append sqlTypes_isPrefixFree (mem_sqlTypes type) rest
  simp only [String.toList_append, List.append_assoc] at named
  simp only [Expr.print, String.toList_append, List.append_assoc]
  rw [show "CAST(".toList = "CAST".toList ++ "(".toList from rfl, List.append_assoc,
    readLayer_applied (by decide), readApplied, if_pos rfl, part.reads _ rfl]
  simp only [Option.bind_eq_bind, Option.bind_some, after?_append, named]
  rfl

theorem reads_extract (word : isWord field = true) (part : Part read operand) :
    Reads (readLayer read) (.extract field operand) := by
  intro rest ends
  have all := (isWord_iff.1 word).2
  simp only [Expr.print, String.toList_append, List.append_assoc]
  rw [show "EXTRACT(".toList = "EXTRACT".toList ++ "(".toList from rfl, List.append_assoc,
    readLayer_applied (by decide), readApplied, if_neg (by decide), if_pos rfl,
    afterWord_append all rfl, wordOf_append all rfl, after?_append, Option.bind_some,
    part.reads _ rfl, String.ofList_toList]
  simp only [Option.bind_eq_bind, Option.bind_some, after?_append]
  rfl

structure BranchPart (read : Reader) (branch : Branch) : Prop where
  condition : Part read branch.condition
  value : Part read branch.value

theorem readBranches_print {branches : List Branch} (room : branches.length < fuel)
    (each : ∀ branch ∈ branches, BranchPart read branch) (ends : isBreak cs = true)
    (last : after? " WHEN " cs = none) :
    readBranches read fuel ((printBranches .postgres branches).toList ++ cs) =
      some (branches, cs) := by
  induction branches generalizing fuel with
  | nil =>
    obtain ⟨fuel, rfl⟩ := Nat.exists_eq_add_one_of_ne_zero (Nat.ne_zero_of_lt room)
    rw [printBranches, String.toList_empty, List.nil_append, readBranches, last]
  | cons branch branches ih =>
    obtain ⟨fuel, rfl⟩ := Nat.exists_eq_add_one_of_ne_zero (Nat.ne_zero_of_lt room)
    have later := ih (Nat.lt_of_succ_lt_succ room) fun other member =>
      each other (by simp [member])
    have part := each branch (by simp)
    obtain ⟨condition, value⟩ := branch
    have next : isBreak ((printBranches .postgres branches).toList ++ cs) = true :=
      isBreak_append (isBreak_printBranches branches) ends
    simp only [printBranches, String.toList_append, List.append_assoc]
    rw [readBranches, after?_append]
    simp only [Option.bind_eq_bind]
    rw [part.condition.reads _ rfl]
    simp only [Option.bind_some, after?_append, part.value.reads _ next, later]
    rfl

theorem readElse_print (part : OptionalPart read otherwise) (rest : List Char) :
    readElse read ((printOptional .postgres " ELSE " otherwise).toList ++
      (" END".toList ++ rest)) = some (otherwise, " END".toList ++ rest) := by
  cases otherwise with
  | none => rfl
  | some e =>
    have inner := (part e rfl).reads (" END".toList ++ rest) rfl
    rw [printOptional, String.toList_append, List.append_assoc, readElse, after?_append]
    simp only [inner]
    rfl

def clauseText (branches : List Branch) (otherwise : Option Expr) (rest : List Char) :
    List Char :=
  (printBranches .postgres branches).toList ++
    ((printOptional .postgres " ELSE " otherwise).toList ++ (" END".toList ++ rest))

theorem isBreak_clauseText (branches : List Branch) (otherwise : Option Expr)
    (rest : List Char) : isBreak (clauseText branches otherwise rest) = true :=
  isBreak_append (isBreak_printBranches branches)
    (isBreak_append (isBreak_printElse otherwise) rfl)

theorem readClauses_print (subject : Option Expr)
    (each : ∀ branch ∈ branches, BranchPart read branch) (part : OptionalPart read otherwise)
    (rest : List Char) :
    readClauses read subject (clauseText branches otherwise rest) =
      some (.case subject branches otherwise, rest) := by
  have ends : isBreak ((printOptional .postgres " ELSE " otherwise).toList ++
      (" END".toList ++ rest)) = true :=
    isBreak_append (isBreak_printElse otherwise) rfl
  have last : after? " WHEN " ((printOptional .postgres " ELSE " otherwise).toList ++
      (" END".toList ++ rest)) = none := by
    cases otherwise with
    | none => rfl
    | some e =>
      rw [printOptional, String.toList_append, List.append_assoc]
      rfl
  have room : branches.length < (clauseText branches otherwise rest).length := by
    have fewer := count_le_printBranches branches
    simp only [clauseText, List.length_append, String.reduceToList, List.length_cons]
    omega
  unfold clauseText at room ⊢
  rw [readClauses, readBranches_print room each ends last]
  simp only [Option.bind_eq_bind, Option.bind_some, readElse_print part, after?_append]
  rfl

/-- Without a subject one of the words of a `CASE` comes first. -/
theorem clauseText_start (branches : List Branch) (otherwise : Option Expr)
    (ends : isBreak rest = true) :
    ∃ word ∈ clauseWords, ∃ cs, isBreak cs = true ∧
      clauseText branches otherwise rest = " ".toList ++ (word.toList ++ cs) := by
  unfold clauseText
  cases branches with
  | cons branch branches =>
    cases branch
    simp only [printBranches, String.toList_append, List.append_assoc]
    exact ⟨"WHEN", by decide, ' ' :: _, rfl, rfl⟩
  | nil =>
    cases otherwise with
    | some e =>
      simp only [printOptional, String.toList_append, List.append_assoc]
      exact ⟨"ELSE", by decide, ' ' :: _, rfl, rfl⟩
    | none => exact ⟨"END", by decide, rest, ends, rfl⟩

theorem readLayer_case (ends : isBreak cs = true) :
    readLayer read ("CASE".toList ++ cs) = readCase read cs := by
  rw [readLayer_bare (by decide) (endsWord_of_isBreak ends) (head?_ne_of_isBreak ends rfl)]
  rfl

theorem readCase_clauses (ends : isBreak rest = true) :
    readCase read (clauseText branches otherwise rest) =
      readClauses read none (clauseText branches otherwise rest) := by
  obtain ⟨word, member, cs, apart, split⟩ := clauseText_start branches otherwise ends
  have words : clauseWords.all isWord = true := by decide
  have all := (isWord_iff.1 (List.all_eq_true.1 words word member)).2
  rw [readCase, split, after?_append, ← split]
  simp only [Option.bind_eq_bind, Option.bind_some]
  rw [bareWord_append all (endsWord_of_isBreak apart) (head?_ne_of_isBreak apart rfl),
    String.ofList_toList, if_pos member]

theorem readCase_subject (part : Part read e) (ends : isBreak cs = true) :
    readCase read (" ".toList ++ ((e.print .postgres).toList ++ cs)) =
      readClauses read (some e) cs := by
  have operand : String.ofList (bareWord ((e.print .postgres).toList ++ cs)) ∉ clauseWords := by
    have free := (print_starts part.readable).isReserved_bareWord ends
    rw [isReserved, decide_eq_false_iff_not] at free
    exact fun member => free (List.mem_cons_of_mem _ member)
  rw [readCase, after?_append]
  simp only [Option.bind_eq_bind, Option.bind_some]
  rw [if_neg operand, part.reads _ ends]
  rfl

theorem reads_case (first : OptionalPart read subject)
    (each : ∀ branch ∈ branches, BranchPart read branch) (last : OptionalPart read otherwise) :
    Reads (readLayer read) (.case subject branches otherwise) := by
  intro rest ends
  have next := isBreak_clauseText branches otherwise rest
  simp only [Expr.print, String.toList_append, List.append_assoc]
  change readLayer read ("CASE".toList ++ ((printOptional .postgres " " subject).toList ++
    clauseText branches otherwise rest)) = _
  cases subject with
  | none =>
    rw [printOptional, String.toList_empty, List.nil_append, readLayer_case next,
      readCase_clauses ends]
    exact readClauses_print none each last rest
  | some e =>
    rw [printOptional, String.toList_append, List.append_assoc, readLayer_case rfl,
      readCase_subject (first e rfl) next]
    exact readClauses_print (some e) each last rest

theorem reads_null : Reads (readLayer read) .null := by
  intro rest ends
  exact readLayer_bare (show isWord "NULL" = true by decide) (endsWord_of_isBreak ends)
    (head?_ne_of_isBreak ends rfl)

theorem reads_bool (value : Bool) : Reads (readLayer read) (.bool value) := by
  intro rest ends
  cases value with
  | true =>
    exact readLayer_bare (show isWord "TRUE" = true by decide) (endsWord_of_isBreak ends)
      (head?_ne_of_isBreak ends rfl)
  | false =>
    exact readLayer_bare (show isWord "FALSE" = true by decide) (endsWord_of_isBreak ends)
      (head?_ne_of_isBreak ends rfl)

theorem reads_text (content : String) : Reads (readLayer read) (.text content) := by
  intro rest ends
  rw [Expr.print, quoteText, enclose_append, readLayer, if_pos rfl,
    readQuoted_double (head?_ne_of_isBreak ends rfl)]
  simp

theorem readLayer_name (name : String) (cs : List Char) :
    readLayer read ((quoteName name).toList ++ cs) =
      readColumn ((quoteName name).toList ++ cs) := by
  rw [quoteName, enclose_append, readLayer, if_neg (by decide), if_pos rfl]

theorem reads_column (qualifier : Option String) (name : String) :
    Reads (readLayer read) (.column qualifier name) := by
  intro rest ends
  have last := readName_append name (head?_ne_of_isBreak ends rfl)
  cases qualifier with
  | none =>
    have point : rest.head? ≠ some '.' := head?_ne_of_isBreak ends rfl
    rw [Expr.print, printColumn, readLayer_name, readColumn, last]
    simp only [Option.bind_eq_bind, Option.bind_some]
    split
    · simp at point
    · rfl
  | some table =>
    simp only [Expr.print, printColumn, String.toList_append, List.append_assoc]
    have apart : ('.' :: ((quoteName name).toList ++ rest)).head? ≠ some doubleQuote :=
      fun same => absurd (Option.some.inj same) (by decide)
    rw [show ".".toList = ['.'] from rfl, List.singleton_append, readLayer_name, readColumn,
      readName_append table apart]
    simp only [Option.bind_eq_bind, Option.bind_some, last]
    rfl

theorem isWord_of_isDigits {cs : List Char} (digits : isDigits cs = true) :
    isWord (String.ofList cs) = true := by
  obtain ⟨filled, all⟩ := isDigits_iff.1 digits
  rw [isWord_iff, String.toList_ofList]
  exact ⟨filled, fun c member => isWordChar_of_isDigit (all c member)⟩

theorem readLayer_digits {whole : List Char} (digits : isDigits whole = true) {cs : List Char}
    (ends : endsWord cs = true) (bare : cs.head? ≠ some '(') :
    readLayer read (whole ++ cs) = readNumber (String.ofList whole) cs := by
  have digit : (String.ofList whole).toList.head?.all Char.isDigit = true := by
    cases whole with
    | nil => rfl
    | cons c whole => simpa using (isDigits_iff.1 digits).2 c (by simp)
  have other : ∀ word : String, word.toList.head?.all Char.isDigit = false →
      String.ofList whole ≠ word := by
    rintro word letter rfl
    exact Bool.noConfusion (digit.symm.trans letter)
  have layer := @readLayer_bare read _ (isWord_of_isDigits digits) _ ends bare
  rw [String.toList_ofList] at layer
  rw [layer, readBare, if_neg (other _ (by decide)), if_neg (other _ (by decide)),
    if_neg (other _ (by decide)), if_neg (other _ (by decide))]

theorem reads_number (unsigned : isUnsigned digits = true) :
    Reads (readLayer read) (.number digits) := by
  intro rest ends
  obtain ⟨whole, before, split⟩ := isUnsigned_split unsigned
  rw [Expr.print, printNumber_of_isUnsigned unsigned]
  have apart := endsWord_of_isBreak ends
  rcases split with split | ⟨fraction, after, split⟩
  · have same : digits = String.ofList whole := by rw [← split, String.ofList_toList]
    have point : withFraction digits rest = (digits, rest) := by
      unfold withFraction
      split
      · exact absurd rfl (head?_ne_of_isBreak ends rfl)
      · rfl
    rw [split, readLayer_digits before apart (head?_ne_of_isBreak ends rfl), ← same, readNumber,
      point]
    exact if_pos unsigned
  · have same : digits = String.ofList whole ++ "." ++ String.ofList fraction := by
      rw [← String.toList_inj, split]
      simp
    have word := (isWord_iff.1 (isWord_of_isDigits after)).2
    rw [String.toList_ofList] at word
    have point : withFraction (String.ofList whole) ('.' :: (fraction ++ rest)) =
        (digits, rest) := by
      rw [withFraction, wordOf_append word apart, afterWord_append word apart, ← same]
    rw [split, List.append_assoc, List.cons_append, readLayer_digits before rfl (by simp),
      readNumber, point]
    exact if_pos unsigned

end

end SheetSql.Reading
