import SheetSql.Proofs.Denotation.Server
import SheetSql.Proofs.Meaning.Division

namespace SheetSql

/-! One occurrence of a text replaced by another text. -/

open Server

/--
An expression is a text wherever it stands. A text has no null character, which Postgres does not
hold and at which SQLite stops to count.
-/
structure Expr.IsText (server : Server) (e : Expr) (cs : List Char) : Prop where
  denotes : ∀ frame, e.Denotes server.interpretation frame (.text cs)
  plain : '\x00' ∉ cs

section

variable {server : Server} {frame : Frame Item} {t old new : Expr} {cs olds news : List Char}
  {nth : Nat}

theorem denotes_concat {left middle right : Expr}
    (first : left.Denotes server.interpretation frame (.text as))
    (second : middle.Denotes server.interpretation frame (.text bs))
    (third : right.Denotes server.interpretation frame (.text ds)) :
    (Expr.chain .concat [left, middle, right]).Denotes server.interpretation frame
      (.text (as ++ bs ++ ds)) :=
  .chain (.cons first (.cons second (.cons third .nil))) rfl

theorem denotes_parts (frame : Frame Item) (isText : t.IsText server cs)
    (isOld : old.IsText server olds) :
    (Expr.call "string_to_array" [t, old]).Denotes server.interpretation frame
      (.texts (Chars.fields olds cs)) :=
  .call (by decide) (.cons (isText.denotes frame) (.cons (isOld.denotes frame) .nil)) rfl

theorem denotes_partCount {parts : Expr}
    (isParts : parts.Denotes server.interpretation frame (.texts items)) :
    ((Expr.call "array_length" [parts, 1]).orElse 0).Denotes server.interpretation frame
      (.int items.length) := by
  have count : (Expr.call "array_length" [parts, 1]).Denotes server.interpretation frame
      (if items.isEmpty then .null else .int items.length) :=
    .call (by decide) (.cons isParts (.cons (denotes_nat 1) .nil)) rfl
  cases items with
  | nil =>
    exact .orElse count (fun _ => denotes_nat 0) (fun _ => rfl) fun filled =>
      absurd filled.symm Bool.false_ne_true
  | cons first rest =>
    exact .orElse count (fun null => absurd null Bool.false_ne_true) (fun _ => rfl) fun _ => rfl

theorem denotes_isEmpty (frame : Frame Item) (isText : t.IsText server cs) :
    (t.eq (.text "")).Denotes server.interpretation frame
      (server.interpretation.bool (decide (cs = []))) :=
  denotes_eqText (isText.denotes frame) (denotes_text "")

theorem denotes_substitutePostgres (frame : Frame Item) (first : 1 ≤ nth)
    (isText : t.IsText server cs) (isOld : old.IsText server olds)
    (isNew : new.IsText server news) :
    (Call.substitutePostgres nth t old new).Denotes server.interpretation frame
      (.text (Chars.substituted olds news nth cs)) := by
  have parts := denotes_parts frame isText isOld
  have isShort := denotes_le (denotes_partCount parts) (denotes_nat nth)
  have joined := fun {slice : Expr} {items : List (List Char)}
      (isSlice : slice.Denotes server.interpretation frame (.texts items)) =>
    show (Expr.call "array_to_string" [slice, old]).Denotes server.interpretation frame
        (.text (olds.intercalate items)) from
      .call (by decide) (.cons isSlice (.cons (isOld.denotes frame) .nil)) rfl
  rw [Chars.substituted_eq_fields news first]
  refine .caseCons (denotes_or (denotes_isEmpty frame isOld) isShort) ?_ ?_
  · intro kept
    rw [if_pos (kept.imp id Int.ofNat_le.1)]
    exact isText.denotes frame
  · intro changed
    rw [if_neg (mt (Or.imp id Int.ofNat_le.2) changed)]
    have before := joined (.sliceTo parts (denotes_nat 1) (denotes_nat nth) rfl)
    have after := joined (.sliceFrom parts (denotes_nat (nth + 1)) rfl)
    exact .caseNil (denotes_concat before (isNew.denotes frame) after)

def occurrenceRow (olds cs : List Char) (k : Nat) : List Item :=
  [.int k, .int (Chars.spot olds cs k)]

abbrev occurrenceNumber : Expr := .column none "__k"

abbrev occurrencePosition : Expr := .column none "__p"

abbrev afterOccurrence (old : Expr) : Expr := occurrencePosition + .call "LENGTH" [old]

abbrev nextOccurrence (t old : Expr) : Expr :=
  .call "INSTR" [.call "SUBSTR" [t, afterOccurrence old], old]

abbrev occurrenceFrame (frame : Frame Item) (olds cs : List Char) (k : Nat) : Frame Item :=
  frame.withRow "__occ" ["__k", "__p"] (occurrenceRow olds cs k)

theorem denotes_number (server : Server) (frame : Frame Item) (olds cs : List Char) (k : Nat) :
    occurrenceNumber.Denotes server.interpretation (occurrenceFrame frame olds cs k) (.int k) :=
  .column rfl

theorem denotes_position (server : Server) (frame : Frame Item) (olds cs : List Char) (k : Nat) :
    occurrencePosition.Denotes server.interpretation (occurrenceFrame frame olds cs k)
      (.int (Chars.spot olds cs k)) :=
  .column rfl

theorem denotes_length (frame : Frame Item) (isText : t.IsText server cs) :
    (Expr.call "LENGTH" [t]).Denotes server.interpretation frame (.int cs.length) := by
  have whole : server.lengthOf cs = cs.length := by
    unfold lengthOf
    split
    · rfl
    · rw [List.takeWhile_eq_self_iff.2]
      intro c member
      exact bne_iff_ne.2 fun null => isText.plain (null ▸ member)
  rw [← whole]
  exact .call (by decide) (.cons (isText.denotes frame) .nil) rfl

theorem denotes_after (frame : Frame Item) (cs : List Char) (isOld : old.IsText server olds)
    (k : Nat) :
    (afterOccurrence old).Denotes server.interpretation (occurrenceFrame frame olds cs k)
      (.int (Chars.spot olds cs k + olds.length)) :=
  denotes_add (denotes_position server frame olds cs k) (denotes_length _ isOld)

theorem denotes_rest {start : Expr} {n : Nat} (isText : t.IsText server cs) (pos : 1 ≤ n)
    (isStart : start.Denotes server.interpretation frame (.int n)) :
    (Expr.call "SUBSTR" [t, start]).Denotes server.interpretation frame
      (.text (cs.drop (n - 1))) := by
  refine .call (by decide) (.cons (isText.denotes frame) (.cons isStart .nil)) ?_
  change (if (1 : Int) ≤ n then some (Item.text (cs.drop ((n : Int).toNat - 1))) else none) = _
  rw [if_pos (by omega), Int.toNat_natCast]

section

variable (frame) (isText : t.IsText server cs) (isOld : old.IsText server olds)

include isText isOld

theorem denotes_next (some : 0 < Chars.spot olds cs k) :
    (nextOccurrence t old).Denotes server.interpretation (occurrenceFrame frame olds cs k)
      (.int (Chars.position olds (cs.drop (Chars.spot olds cs k + olds.length - 1)))) :=
  .call (by decide)
    (.cons (denotes_rest isText (by omega) (denotes_after frame cs isOld k))
      (.cons (isOld.denotes _) .nil)) rfl

/-- A round of the table: the row of the next occurrence after that of one. -/
abbrev occurrenceStep (nth : Nat) (t old : Expr) : Select :=
  { Select.of
      [⟨occurrenceNumber + 1, none⟩,
       ⟨.ite ((nextOccurrence t old).eq 0) 0
          (afterOccurrence old + nextOccurrence t old - 1), none⟩] with
    source := some (.table "__occ")
    filter := some ((occurrencePosition.gt 0).and (occurrenceNumber.lt (.int nth))) }

theorem denote_occurrenceStep (nth : Nat) (filled : olds ≠ []) (k : Nat) :
    (occurrenceStep nth t old).denote server.interpretation
        (frame.withTable "__occ" ⟨["__k", "__p"], [occurrenceRow olds cs k]⟩) =
      some (if 0 < Chars.spot olds cs k ∧ k < nth then [occurrenceRow olds cs (k + 1)] else []) := by
  generalize inside : frame.withTable "__occ" ⟨["__k", "__p"], [occurrenceRow olds cs k]⟩ = inner
  have known : inner.table? "__occ" =
      some ⟨["__k", "__p"], [k].map (occurrenceRow olds cs)⟩ := by
    rw [← inside]
    rfl
  have enters : denoteRecursion server.interpretation inner none = some inner := by
    rw [denoteRecursion]
  have test : ∀ j ∈ [k], ((occurrencePosition.gt 0).and (occurrenceNumber.lt (.int nth))).Denotes
      server.interpretation (occurrenceFrame inner olds cs j)
      (server.interpretation.bool (decide (0 < Chars.spot olds cs j ∧ j < nth))) := by
    intro j _
    have wanted := denotes_and (denotes_gt (denotes_position server inner olds cs j) (denotes_nat 0))
      (denotes_lt (denotes_number server inner olds cs j) (denotes_nat nth))
    simp only [Int.ofNat_lt] at wanted
    exact wanted
  have value : ∀ j ∈ [k], 0 < Chars.spot olds cs j ∧ j < nth →
      List.Forall₂ (Expr.Denotes server.interpretation (occurrenceFrame inner olds cs j))
        [occurrenceNumber + 1, .ite ((nextOccurrence t old).eq 0) 0
          (afterOccurrence old + nextOccurrence t old - 1)]
        (occurrenceRow olds cs (j + 1)) := by
    intro j _ wanted
    have next := denotes_next inner isText isOld wanted.1
    refine .cons (denotes_add (denotes_number server inner olds cs j) (denotes_nat 1)) (.cons ?_ .nil)
    refine .ite (denotes_eq next (denotes_nat 0)) ?_ ?_
    · intro missing
      rw [Chars.spot_succ filled cs wanted.1, if_pos (Int.ofNat_inj.1 missing)]
      exact denotes_nat 0
    · intro found
      have place := denotes_sub (denotes_add (denotes_after inner cs isOld j) next) (denotes_nat 1)
      rw [Chars.spot_succ filled cs wanted.1, if_neg (mt Int.ofNat_inj.2 found),
        Nat.cast_sub (by omega), Nat.cast_add, Nat.cast_add]
      exact place
  refine (denote_select_rows [k] (occurrenceRow olds cs) enters known test value).trans ?_
  by_cases wanted : 0 < Chars.spot olds cs k ∧ k < nth
  · simp [wanted]
  · simp [wanted]

theorem denote_occurrenceAnchor (filled : olds ≠ []) :
    (Select.of [⟨1, none⟩, ⟨.call "INSTR" [t, old], none⟩]).denote server.interpretation frame =
      some [occurrenceRow olds cs 1] := by
  have found : (Expr.call "INSTR" [t, old]).Denotes server.interpretation frame
      (.int (Chars.position olds cs)) :=
    .call (by decide) (.cons (isText.denotes frame) (.cons (isOld.denotes frame) .nil)) rfl
  rw [← Chars.spot_one filled] at found
  have row : List.Forall₂ (Expr.Denotes server.interpretation frame)
      [1, .call "INSTR" [t, old]] (occurrenceRow olds cs 1) :=
    .cons (denotes_nat 1) (.cons found .nil)
  have rows := denote_select row
  rwa [List.map_cons, List.map_singleton] at rows

/-- The table grows by one occurrence in each round, up to the one that is wanted. -/
theorem occurrences_grow (filled : olds ≠ []) (last : k + left = nth) : Grows
      (fun rows => (occurrenceStep nth t old).denote server.interpretation
        (frame.withTable "__occ" ⟨["__k", "__p"], rows⟩))
      [occurrenceRow olds cs k] ((Chars.walk olds cs left k).map (occurrenceRow olds cs)) := by
  have step := denote_occurrenceStep frame isText isOld nth filled
  -- By the occurrences that are left; the rounds end early where one is missing.
  induction left generalizing k with
  | zero =>
    refine .more (List.cons_ne_nil _ _) ((step k).trans ?_) .done
    rw [if_neg (by omega)]
  | succ left ih =>
    rw [Chars.walk, List.map_cons]
    by_cases some : 0 < Chars.spot olds cs k
    · rw [if_pos some]
      refine .more (List.cons_ne_nil _ _) ((step k).trans ?_) (ih (by omega))
      rw [if_pos ⟨some, by omega⟩]
    · rw [if_neg some]
      refine .more (List.cons_ne_nil _ _) ((step k).trans ?_) .done
      rw [if_neg (mt And.left some)]

abbrev splicedText (t old new : Expr) : Expr :=
  .chain .concat
    [.call "SUBSTR" [t, 1, occurrencePosition - 1], new, .call "SUBSTR" [t, afterOccurrence old]]

theorem denotes_spliced (isNew : new.IsText server news) (some : 0 < Chars.spot olds cs k) :
    (splicedText t old new).Denotes server.interpretation (occurrenceFrame frame olds cs k)
      (.text (cs.take (Chars.spot olds cs k - 1) ++ news ++
        cs.drop (Chars.spot olds cs k + olds.length - 1))) := by
  have before : (Expr.call "SUBSTR" [t, 1, occurrencePosition - 1]).Denotes server.interpretation
      (occurrenceFrame frame olds cs k) (.text (cs.take (Chars.spot olds cs k - 1))) := by
    have count := denotes_sub (denotes_position server frame olds cs k) (denotes_nat 1)
    refine .call (by decide)
      (.cons (isText.denotes _) (.cons (denotes_nat 1) (.cons count .nil))) ?_
    change (if (1 : Int) ≤ (1 : Nat) ∧ (0 : Int) ≤ Chars.spot olds cs k - (1 : Nat) then
      Option.some (Item.text ((cs.drop 0).take ((Chars.spot olds cs k : Int) - (1 : Nat)).toNat))
      else none) = _
    rw [if_pos (by omega), List.drop_zero, Int.toNat_sub]
  have after := denotes_rest isText (by omega) (denotes_after frame cs isOld k)
  exact denotes_concat before (isNew.denotes _) after

theorem denote_spliced (first : 1 ≤ nth) (filled : olds ≠ []) (isNew : new.IsText server news) :
    Select.denote server.interpretation frame
        { Select.value (splicedText t old new) with
          recursion := some
            { name := "__occ"
              columns := ["__k", "__p"]
              anchor := .of [⟨1, none⟩, ⟨.call "INSTR" [t, old], none⟩]
              step := occurrenceStep nth t old }
          source := some (.table "__occ")
          filter := some ((occurrenceNumber.eq (.int nth)).and (occurrencePosition.gt 0)) } =
      some (if Chars.spot olds cs nth = 0 then []
        else [[.text (Chars.substituted olds news nth cs)]]) := by
  obtain ⟨left, last⟩ := Nat.exists_eq_add_of_le first
  have enters := denoteRecursion_of_grows (denote_occurrenceAnchor frame isText isOld filled)
    (occurrences_grow frame isText isOld filled last.symm)
  generalize inside : frame.withTable "__occ"
    ⟨["__k", "__p"], (Chars.walk olds cs left 1).map (occurrenceRow olds cs)⟩ = inner at enters
  have known : inner.table? "__occ" =
      some ⟨["__k", "__p"], (Chars.walk olds cs left 1).map (occurrenceRow olds cs)⟩ := by
    rw [← inside]
    rfl
  have test : ∀ j ∈ Chars.walk olds cs left 1,
      ((occurrenceNumber.eq (.int nth)).and (occurrencePosition.gt 0)).Denotes
        server.interpretation (occurrenceFrame inner olds cs j)
        (server.interpretation.bool (decide (j = nth ∧ 0 < Chars.spot olds cs j))) := by
    intro j _
    have wanted := denotes_and
      (denotes_eq (denotes_number server inner olds cs j) (denotes_nat nth))
      (denotes_gt (denotes_position server inner olds cs j) (denotes_nat 0))
    simp only [Int.ofNat_lt, Int.ofNat_inj] at wanted
    exact wanted
  have value : ∀ j ∈ Chars.walk olds cs left 1, j = nth ∧ 0 < Chars.spot olds cs j →
      List.Forall₂ (Expr.Denotes server.interpretation (occurrenceFrame inner olds cs j))
        [splicedText t old new]
        [.text (cs.take (Chars.spot olds cs j - 1) ++ news ++
          cs.drop (Chars.spot olds cs j + olds.length - 1))] :=
    fun j _ wanted => .cons (denotes_spliced inner isText isOld isNew wanted.2) .nil
  refine (denote_select_rows _ (occurrenceRow olds cs) enters known test value).trans ?_
  rw [Chars.filter_walk olds cs (Nat.le_refl 1) last.symm, Chars.substituted_eq_spot filled]
  by_cases none : Chars.spot olds cs nth = 0
  · rw [if_neg (by omega), if_pos none]
    rfl
  · rw [if_pos (by omega), if_neg none, if_neg none]
    rfl

end

theorem denotes_substituteSqlite (frame : Frame Item) (first : 1 ≤ nth)
    (isText : t.IsText server cs) (isOld : old.IsText server olds)
    (isNew : new.IsText server news) :
    (Call.substituteSqlite nth t old new).Denotes server.interpretation frame
      (.text (Chars.substituted olds news nth cs)) := by
  refine .ite (denotes_isEmpty frame isOld) ?_ ?_
  · intro empty
    rw [Chars.substituted, if_pos empty]
    exact isText.denotes frame
  · intro filled
    have rows := denote_spliced frame isText isOld first filled isNew
    by_cases none : Chars.spot olds cs nth = 0
    · rw [if_pos none] at rows
      rw [Chars.substituted_eq_spot filled, if_pos none]
      exact .orElse (.subqueryNone rows) (fun _ => isText.denotes frame) (fun _ => rfl)
        fun kept => absurd kept.symm Bool.false_ne_true
    · rw [if_neg none] at rows
      exact .orElse (.subqueryOne rows) (fun null => absurd null Bool.false_ne_true) (fun _ => rfl)
        fun _ => rfl

def Call.ArgumentIs (call : Call) (server : Server) (i : Nat) (cs : List Char) : Prop :=
  ∃ e, call.textOrEmpty i = .ok e ∧ e.IsText server cs

structure Call.IsSubstituteNth (call : Call) (server : Server) (nth : Nat)
    (cs olds news : List Char) : Prop where
  dialect : server.dialect = call.dialect
  operation : call.operation = .substitute
  accepted : Target.check call.operation call.args call.hints = .ok ()
  occurrence : call.occurrence 3 = .ok nth
  inQuery : call.dialect = .sqlite → call.target.placement = .select
  text : call.ArgumentIs server 0 cs
  old : call.ArgumentIs server 1 olds
  new : call.ArgumentIs server 2 news

theorem occurrence_spec {call : Call} (given : call.occurrence i = .ok nth) :
    call.has i = true ∧ 1 ≤ nth := by
  constructor
  · by_contra missing
    have absent : call.sqlAt i = "NULL" := by
      rw [Call.has, decide_eq_true_iff, Nat.not_lt] at missing
      rw [Call.sqlAt, List.getElem?_eq_none missing, Option.getD_none]
    have unread : Sql.numberLiteral? "NULL" = none := by decide
    rw [Call.occurrence, absent, unread] at given
    cases given
  · unfold Call.occurrence at given
    split at given
    · cases given
    · split at given
      · split at given
        · next bounds =>
            cases given
            exact bounds.1
        · cases given
      · cases given

theorem compile_substitute {call : Call} (isSubstitute : call.IsSubstituteNth server nth cs olds news)
    (frame : Frame Item) :
    ∃ e, call.compile = .ok e ∧
      e.Denotes server.interpretation frame (.text (Chars.substituted olds news nth cs)) := by
  obtain ⟨given, first⟩ := occurrence_spec isSubstitute.occurrence
  obtain ⟨t, readText, isText⟩ := isSubstitute.text
  obtain ⟨old, readOld, isOld⟩ := isSubstitute.old
  obtain ⟨new, readNew, isNew⟩ := isSubstitute.new
  have compiles : call.compile = call.substituteNth := by
    unfold Call.compile Call.own?
    rw [isSubstitute.operation]
    simp only [given, if_true]
  rw [compiles, Call.substituteNth, isSubstitute.occurrence, readText, readOld, readNew]
  cases dialect : call.dialect with
  | postgres => exact ⟨_, rfl, denotes_substitutePostgres frame first isText isOld isNew⟩
  | sqlite =>
    have free : call.needSubquery = .ok () := by
      rw [Site.needSubquery, isSubstitute.inQuery dialect]
    rw [free]
    exact ⟨_, rfl, denotes_substituteSqlite frame first isText isOld isNew⟩

/--
A text with one occurrence of another text replaced. The two engines, of which one splits the text
and the other walks through it, have the same text: that with the occurrence replaced that is
found from the left without overlaps, and the text as it is if there is none.
-/
theorem substitute_replaces_one {nth : Nat} (first : 1 ≤ nth) (cs olds news : List Char) :
    (∀ (server : Server) (frame : Frame Item) {t old new : Expr}, server.dialect = .postgres →
      t.IsText server cs → old.IsText server olds → new.IsText server news →
      (Call.substitutePostgres nth t old new).Denotes server.interpretation frame
        (.text (Chars.substituted olds news nth cs))) ∧
    (∀ (server : Server) (frame : Frame Item) {t old new : Expr}, server.dialect = .sqlite →
      t.IsText server cs → old.IsText server olds → new.IsText server news →
      (Call.substituteSqlite nth t old new).Denotes server.interpretation frame
        (.text (Chars.substituted olds news nth cs))) ∧
    ∀ (server : Server) (frame : Frame Item) (call : Call),
      call.IsSubstituteNth server nth cs olds news →
      ∃ e : Expr,
        call.target.render call.job "SUBSTITUTE" call.args call.hints =
          .ok (e.print call.dialect) ∧
        e.Denotes server.interpretation frame (.text (Chars.substituted olds news nth cs)) := by
  refine ⟨?_, ?_, ?_⟩
  · intro server frame t old new _ isText isOld isNew
    exact denotes_substitutePostgres frame first isText isOld isNew
  · intro server frame t old new _ isText isOld isNew
    exact denotes_substituteSqlite frame first isText isOld isNew
  · intro server frame call isSubstitute
    obtain ⟨e, compiled, value⟩ := compile_substitute isSubstitute frame
    have named : Operation.ofName? "SUBSTITUTE" = some .substitute := by decide
    rw [← isSubstitute.operation] at named
    exact ⟨e, render_of_compile named isSubstitute.accepted compiled, value⟩

end

def secondInBanana : Call :=
  { job := .ofCatalog (.ofFields []) ⟨0, 0⟩
    target := ⟨.sqlite, .select⟩
    operation := .substitute
    args := ["'banana'", "'an'", "'-'", "2"]
    hints := [] }

theorem secondInBanana_isSubstituteNth :
    secondInBanana.IsSubstituteNth (.ofDays .sqlite fun _ => .null) 2 "banana".toList "an".toList
      "-".toList := by
  have literal : ∀ {sql : String} {cs : List Char},
      (Server.ofDays .sqlite fun _ => .null).interpretation.fragment sql = .text cs →
      '\x00' ∉ cs →
      ((Expr.fragment sql).orElse (.text "")).IsText (.ofDays .sqlite fun _ => .null) cs := by
    intro sql cs spelled plain
    refine ⟨fun frame => ?_, plain⟩
    have value : (Expr.fragment sql).Denotes (Server.ofDays .sqlite fun _ => .null).interpretation
        frame (.text cs) := by
      rw [← spelled]
      exact .fragment sql
    exact .orElse value (fun null => absurd null Bool.false_ne_true) (fun _ => rfl) fun _ => rfl
  exact
    { dialect := rfl
      operation := rfl
      accepted := rfl
      occurrence := by decide
      inQuery := fun _ => rfl
      text := ⟨_, rfl, literal rfl (by decide)⟩
      old := ⟨_, rfl, literal rfl (by decide)⟩
      new := ⟨_, rfl, literal rfl (by decide)⟩ }

theorem substitute_replaces_one_banana :
    (Call.substitutePostgres 2 (.text "banana") (.text "an") (.text "-")).Denotes
      (Server.ofDays .postgres fun _ => .null).interpretation .empty (.text "ban-a".toList) ∧
    ∃ e : Expr,
      secondInBanana.target.render secondInBanana.job "SUBSTITUTE" secondInBanana.args
        secondInBanana.hints = .ok (e.print .sqlite) ∧
      e.Denotes (Server.ofDays .sqlite fun _ => .null).interpretation .empty
        (.text "ban-a".toList) := by
  have replaced : Chars.substituted "an".toList "-".toList 2 "banana".toList = "ban-a".toList := by
    decide
  obtain ⟨onPostgres, -, onCalls⟩ := substitute_replaces_one (show 1 ≤ 2 by decide)
    "banana".toList "an".toList "-".toList
  rw [replaced] at onPostgres onCalls
  have isText : ∀ content : String, '\x00' ∉ content.toList →
      (Expr.text content).IsText (.ofDays .postgres fun _ => .null) content.toList :=
    fun content plain => ⟨fun _ => denotes_text content, plain⟩
  exact ⟨onPostgres _ _ rfl (isText "banana" (by decide)) (isText "an" (by decide))
    (isText "-" (by decide)), onCalls _ _ _ secondInBanana_isSubstituteNth⟩

end SheetSql
