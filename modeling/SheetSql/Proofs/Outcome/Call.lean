import SheetSql.Compile.Call
import SheetSql.Proofs.Outcome.Site

namespace SheetSql

/-! Calls that differ only in the texts of their arguments, and what they get out of these. -/

theorem Facts.kind_ne_blank (facts : Facts) : facts.kind ≠ .blank := by
  unfold Facts.kind
  repeat' split
  all_goals exact nofun

theorem isLiteral_classify (other : literalKind? sql = none) :
    (Operand.classify job sql hint).isLiteral = false := by
  unfold Operand.classify
  rw [other]
  dsimp only
  split
  · rfl
  · split <;> rfl

theorem literalKind?_of_blank (blank : (Operand.classify job sql hint).kind = .blank) :
    literalKind? sql = some .blank := by
  unfold Operand.classify at blank
  cases literal : literalKind? sql with
  | some kind =>
    rw [literal] at blank
    exact congrArg some blank
  | none =>
    rw [literal] at blank
    dsimp only at blank
    split at blank
    · exact absurd blank (Facts.kind_ne_blank _)
    · split at blank
      · exact absurd blank (Facts.kind_ne_blank _)
      · exact absurd blank (Facts.kind_ne_blank _)

theorem kind_classify_null (job : Job) : (Operand.classify job "NULL" none).kind = .blank := by
  have literal : literalKind? "NULL" = some .blank := by decide
  rw [Operand.classify, literal]

namespace Call

/-- The same call up to the texts of its arguments, and with queries where the target has them. -/
structure Fits (terms : Terms) (call call' : Call) : Prop where
  site : call'.toSite = call.toSite
  operands : List.Forall₂ (Operand.Fits call.toSite terms) call.operands call'.operands
  queries : call.target.placement = .select → terms.likeness.queries

variable {terms : Terms} {call call' : Call}

theorem forall₂_mapIdx {α β : Type} {r : α → α → Prop} {s : β → β → Prop} {as bs : List α}
    {f : Nat → α → β} (each : List.Forall₂ r as bs)
    (step : ∀ (i : Nat) {a b : α}, r a b → s (f i a) (f i b)) :
    List.Forall₂ s (as.mapIdx f) (bs.mapIdx f) := by
  induction each generalizing f with
  | nil => exact .nil
  | cons head _ ih =>
    rw [List.mapIdx_cons, List.mapIdx_cons]
    exact .cons (step 0 head) (ih fun i => step (i + 1))

theorem operands_alike {call call' : Call} (site : call'.toSite = call.toSite)
    (hints : call'.hints = call.hints) (texts : List.Forall₂ l.texts call.args call'.args) :
    List.Forall₂ (Operand.Alike l) call.operands call'.operands := by
  rw [Call.operands, Call.operands, site, hints]
  exact forall₂_mapIdx texts fun _ _ _ texts => classify_alike texts _ _

theorem operands_self {call : Call} (each : ∀ arg ∈ call.args, l.texts arg arg) :
    List.Forall₂ (Operand.Alike l) call.operands call.operands :=
  operands_alike rfl rfl (List.forall₂_same.2 each)

theorem operand_eq (call : Call) (i : Nat) :
    call.operand i = call.operands[i]?.getD (.classify call.job "NULL" none) := by
  rw [Call.operand, Call.sqlAt, Call.operands, List.getElem?_mapIdx]
  cases call.args[i]? with
  | none => rfl
  | some sql => rfl

theorem fits_of_alike (site : call'.toSite = call.toSite)
    (operands : List.Forall₂ (Operand.Alike terms.likeness) call.operands call'.operands)
    (queries : call.target.placement = .select → terms.likeness.queries)
    (many : ∀ operand ∈ call.operands, operand.kind = .json →
      call.target.placement = .generated → terms.allows (.needsSubquery call.operation)) :
    call.Fits terms call' := by
  have apart : ∀ operand ∈ call.operands, operand.kind = .datetime →
      operand.expr.isNow = false := by
    intro operand member moment
    rw [Call.operands] at member
    obtain ⟨i, inside, rfl⟩ := List.mem_mapIdx.1 member
    exact isNow_classify moment
  refine ⟨site, ?_, queries⟩
  have both := (List.forall₂_and_left _ _).2 ⟨fun operand member =>
    And.intro (apart operand member) (many operand member), operands⟩
  exact both.imp fun _ _ ⟨⟨apart, many⟩, alike⟩ => ⟨alike, queries, apart, many⟩

section

variable (fits : call.Fits terms call')

include fits

theorem has_eq (i : Nat) : call'.has i = call.has i := by
  have count := fits.operands.length_eq
  rw [Call.operands, Call.operands, List.length_mapIdx, List.length_mapIdx] at count
  rw [Call.has, Call.has, count]

theorem dialect_eq : call'.dialect = call.dialect := by
  rw [Call.dialect, Call.dialect, fits.site]

theorem fault_eq (i : Nat) (fault : ArgumentFault) : call'.fault i fault = call.fault i fault := by
  rw [Call.fault, Call.fault, fits.site]

theorem unsupported_eq : call'.unsupported = call.unsupported := by
  rw [Call.unsupported, Call.unsupported, fits.site]

theorem jobClock_eq : call'.jobClock = call.jobClock := by
  rw [Call.jobClock, Call.jobClock, fits.site]

theorem operand_fits (i : Nat) : (call.operand i).Fits call.toSite terms (call'.operand i) := by
  have each := fits.operands
  rw [operand_eq, operand_eq, fits.site]
  generalize call.operands = list, call'.operands = list' at each
  induction each generalizing i with
  | nil =>
    refine ⟨classify_alike terms.likeness.null call.job none, fits.queries, ?_, ?_⟩
    · exact fun moment => by cases (kind_classify_null call.job).symm.trans moment
    · exact fun json => by cases (kind_classify_null call.job).symm.trans json
  | cons head _ ih =>
    cases i with
    | zero => exact head
    | succ i => exact ih i

theorem sqlAt_alike (i : Nat) : terms.likeness.texts (call.sqlAt i) (call'.sqlAt i) := by
  have texts := (operand_fits fits i).texts
  rwa [Call.operand, Call.operand, Operand.classify_sql, Operand.classify_sql] at texts

theorem number_keeps (i : Nat) : call.Keeps terms (call.number i) (call'.number i) := by
  rw [Call.number, Call.number, fits.site]
  exact Site.toNumber_keeps (operand_fits fits i)

theorem numberOrZero_keeps (i : Nat) :
    call.Keeps terms (call.numberOrZero i) (call'.numberOrZero i) := by
  rw [Call.numberOrZero, Call.numberOrZero, fits.site]
  exact Site.toNumberOrZero_keeps (operand_fits fits i)

theorem text_keeps (i : Nat) (shows : (call.operand i).MayShow call.toSite terms) :
    call.Keeps terms (call.text i) (call'.text i) := by
  rw [Call.text, Call.text, fits.site]
  exact Site.toText_keeps (operand_fits fits i) shows

theorem textOrEmpty_keeps (i : Nat) (shows : (call.operand i).MayShow call.toSite terms) :
    call.Keeps terms (call.textOrEmpty i) (call'.textOrEmpty i) := by
  rw [Call.textOrEmpty, Call.textOrEmpty, fits.site]
  exact Site.toTextOrEmpty_keeps (operand_fits fits i) shows

theorem truth_keeps (i : Nat) : call.Keeps terms (call.truth i) (call'.truth i) := by
  rw [Call.truth, Call.truth, fits.site]
  exact Site.toBool_keeps (operand_fits fits i)

theorem datetime_sound (i : Nat) :
    terms.Sound call.target (call.datetime i) (call'.datetime i) := by
  rw [Call.datetime, Call.datetime, fits.site]
  exact Site.toDatetime_sound (operand_fits fits i)

theorem clock_eq (i : Nat) :
    call'.toSite.clock (call'.operand i) = call.toSite.clock (call.operand i) := by
  rw [fits.site, (operand_fits fits i).clock]

theorem numberOr_keeps (i : Nat) {default default' : Expr}
    (other : terms.Sound call.target default default') :
    call.Keeps terms (call.numberOr i default) (call'.numberOr i default') := by
  rw [Call.numberOr, Call.numberOr, has_eq fits]
  split
  · exact number_keeps fits i
  · exact .ok other

omit fits in
theorem boundedInt_sound {low high : Int} (number : terms.Sound call.target e e') :
    terms.Sound call.target (call.dialect.boundedInt e low high)
      (call.dialect.boundedInt e' low high) :=
  ⟨alike_boundedInt.2 number.1, obeys_boundedInt.trans number.2⟩

theorem position_keeps (i : Nat) : call.Keeps terms (call.position i) (call'.position i) := by
  rw [Call.position, Call.position, dialect_eq fits]
  exact (number_keeps fits i).bind fun number => .ok (boundedInt_sound number)

theorem length_keeps (i : Nat) : call.Keeps terms (call.length i) (call'.length i) := by
  rw [Call.length, Call.length, dialect_eq fits]
  exact (number_keeps fits i).bind fun number => .ok (boundedInt_sound number)

theorem lengthOrOne_keeps (i : Nat) :
    call.Keeps terms (call.lengthOrOne i) (call'.lengthOrOne i) := by
  rw [Call.lengthOrOne, Call.lengthOrOne, has_eq fits]
  split
  · exact length_keeps fits i
  · exact .ok (by simp)

theorem textLiteral_eq (i : Nat) : call'.textLiteral i = call.textLiteral i := by
  rw [Call.textLiteral, Call.textLiteral, textLiteral?_eq (sqlAt_alike fits i), fault_eq fits]

theorem textLiteralOr_eq (i : Nat) (default : String) :
    call'.textLiteralOr i default = call.textLiteralOr i default := by
  rw [Call.textLiteralOr, Call.textLiteralOr, has_eq fits, textLiteral_eq fits]

theorem occurrence_eq (i : Nat) : call'.occurrence i = call.occurrence i := by
  rw [Call.occurrence, Call.occurrence, numberLiteral?_eq (sqlAt_alike fits i), fault_eq fits,
    fault_eq fits]

theorem systemColumn_sound (name : String) :
    terms.Sound call.target (call.systemColumn name) (call'.systemColumn name) := by
  rw [Call.systemColumn, Call.systemColumn, fits.site]
  simp

theorem needSubquery_keeps {α β : Type} {r : α → β → Prop} {x : Except Error α}
    {y : Except Error β}
    (many : call.target.placement = .generated → terms.allows (.needsSubquery call.operation))
    (next : call.target.placement = .select → terms.likeness.queries →
      Agree r terms.allows x y) :
    Agree r terms.allows (call.needSubquery >>= fun _ => x)
      (call'.needSubquery >>= fun _ => y) := by
  rw [fits.site]
  exact Site.needSubquery_keeps fits.queries many next

end

theorem textLiteral_ends (fault : terms.allows (call.fault i .notText)) :
    Agree Eq terms.allows (call.textLiteral i) (call.textLiteral i) := by
  unfold Call.textLiteral
  split
  · exact .ok rfl
  · exact .error fault

theorem textLiteralOr_ends {default : String}
    (fault : call.has i = true → terms.allows (call.fault i .notText)) :
    Agree Eq terms.allows (call.textLiteralOr i default) (call.textLiteralOr i default) := by
  unfold Call.textLiteralOr
  split
  · exact textLiteral_ends (fault ‹_›)
  · exact .ok rfl

theorem occurrence_ends (fault : ∀ fault, terms.allows (call.fault i fault)) :
    Agree Eq terms.allows (call.occurrence i) (call.occurrence i) := by
  unfold Call.occurrence
  split
  · exact .error (fault _)
  · split
    · split
      · exact .ok rfl
      · exact .error (fault _)
    · exact .error (fault _)

end Call

end SheetSql
