import SheetSql.Proofs.Outcome.WellFormed

namespace SheetSql

/-! Functions of Postgres in generated columns. -/

open Coerce

theorem Rule.emitted_implies_immutable (stable : List String) :
    (Rule.emitted ⟨.postgres, .generated⟩ stable).Implies (.immutable stable) where
  node := fun node => (Bool.and_eq_true_iff.1 (Bool.and_eq_true_iff.1 node).2).2
  fold := fun fold => by cases fold
  query := fun _ => rfl
  source := fun _ => rfl

section

variable {r : Rule} {one other : Expr} {op : BinOp} {list : List Expr}

theorem obeys_binary_eq :
    (Expr.binary one op other).obeys r =
      (r.node (.binary one op other) && (one.obeys r && other.obeys r)) := by
  rw [Expr.obeys, Expr.partsObey]
  rfl

theorem obeys_chain_eq :
    (Expr.chain op list).obeys r = (r.node (.chain op list) && allObey r list) := by
  rw [Expr.obeys, Expr.partsObey]

theorem obeys_caseWhen_eq :
    (Expr.caseWhen branches otherwise).obeys r =
      (r.node (.caseWhen branches otherwise) &&
        (branchesObey r branches && maybeObeys r otherwise)) := by
  rw [Expr.caseWhen, Expr.obeys, Expr.partsObey, maybeObeys_none, Bool.true_and]

theorem obeys_sequence_eq_false (member : one ∈ list) (spoiled : one.obeys r = false) :
    (Expr.sequence op list).obeys r = false := by
  have parts : allObey r list = false := by
    rw [Bool.eq_false_iff]
    intro each
    rw [allObey_iff.1 each one member] at spoiled
    cases spoiled
  unfold Expr.sequence
  split
  · simpa using parts
  · rw [obeys_chain_eq, parts, Bool.and_false]

end

/-- A computation whose result, if there is one, has a property. -/
inductive Ends {ε α : Type} (p : α → Prop) : Except ε α → Prop
  | ok {a : α} (good : p a) : Ends p (.ok a)
  | error (e : ε) : Ends p (.error e)

/-- A computation whose result, if there is one, calls a function that is not immutable. -/
def Spoiled : Except Error Expr → Prop := Ends fun e => e.obeys (.immutable []) = false

theorem Ends.bind {ε α β : Type} {p : α → Prop} {q : β → Prop} {x : Except ε α}
    {f : α → Except ε β} (first : Ends p x) (next : ∀ {a}, p a → Ends q (f a)) :
    Ends q (x >>= f) := by
  cases first with
  | ok good => exact next good
  | error e => exact .error e

theorem Ends.after {ε α β : Type} {p : β → Prop} {x : Except ε α} {f : α → Except ε β}
    (next : ∀ a, Ends p (f a)) : Ends p (x >>= f) := by
  cases x with
  | ok a => exact next a
  | error e => exact .error e

theorem Ends.mapM_mem {ε α β : Type} {p : β → Prop} {f : α → Except ε β} {list : List α} {a : α}
    (member : a ∈ list) (ends : Ends p (f a)) :
    Ends (fun results => ∃ b ∈ results, p b) (list.mapM f) := by
  induction list with
  | nil => cases member
  | cons first rest ih =>
    rw [List.mapM_cons]
    rcases List.mem_cons.1 member with rfl | later
    · exact ends.bind fun {b} good => Ends.after fun more => .ok ⟨b, List.mem_cons_self, good⟩
    · refine Ends.after fun b => (ih later).bind fun ⟨c, inside, good⟩ => .ok ?_
      exact ⟨c, List.mem_cons_of_mem b inside, good⟩

theorem not_immutable (listed : immutableFunctions.contains function = false)
    (cut : (function == "date_trunc") = false) (args : List Expr) :
    (Rule.immutable []).node (.call function args) = false := by
  simp only [Rule.immutable, isImmutable, listed, cut]
  rfl

namespace Site

variable {site : Site} {operand left right : Operand}
  (postgres : site.target.dialect = .postgres)

include postgres

section

variable (moment : operand.kind = .datetime)

include moment

theorem spoiled_toText : Spoiled (site.toText operand) := by
  unfold toText
  rw [moment, postgres]
  refine .ok ?_
  rw [datetimeText, obeys_call, not_immutable (by decide) (by decide), Bool.false_and]

theorem spoiled_toTextOrEmpty : Spoiled (site.toTextOrEmpty operand) := by
  have filled : operand.isBlank = false := by rw [Operand.isBlank, moment]; rfl
  unfold toTextOrEmpty
  rw [filled]
  exact (spoiled_toText postgres moment).bind fun spoiled => .ok (by
    simp [Expr.orElse, Expr.coalesce, spoiled])

end

theorem spoiled_equal (read : operand ∈ left.comparedAsText right)
    (moment : operand.kind = .datetime) : Spoiled (site.equal negated left right) := by
  unfold Operand.comparedAsText at read
  split at read
  · rename_i asks
    have side : site.equalSide left right = site.toTextOrEmpty := if_pos asks
    rw [equal_eq_sides, side]
    have spoiled := spoiled_toTextOrEmpty postgres moment
    rcases List.mem_pair.1 read with rfl | rfl
    · exact spoiled.bind fun first => Ends.after fun _ => .ok (by simp [obeys_binary_eq, first])
    · exact Ends.after fun _ => spoiled.bind fun second => .ok (by simp [obeys_binary_eq, second])
  · cases read

end Site

namespace Call

variable {call : Call} (postgres : call.dialect = .postgres)

include postgres

section

variable (moment : (call.operand 0).kind = .datetime)

include moment

theorem spoiled_textFunction : Spoiled (call.textFunction function) :=
  (Site.spoiled_toText postgres moment).bind fun text => .ok (by simp [text])

theorem spoiled_len : Spoiled call.len :=
  (Site.spoiled_toTextOrEmpty postgres moment).bind fun text => .ok (by simp [text])

theorem spoiled_mid : Spoiled call.mid :=
  (Site.spoiled_toText postgres moment).bind fun text => Ends.after fun _ => Ends.after fun _ =>
    .ok (by simp [text])

theorem spoiled_left : Spoiled call.left :=
  Ends.after fun _ => (Site.spoiled_toText postgres moment).bind fun text => .ok (by simp [text])

theorem spoiled_right : Spoiled call.right :=
  (Site.spoiled_toText postgres moment).bind fun text => Ends.after fun _ =>
    .ok (by simp [rightOf, postgres, text])

theorem spoiled_rept : Spoiled call.rept :=
  (Site.spoiled_toTextOrEmpty postgres moment).bind fun text => Ends.after fun _ =>
    .ok (by simp [repeatOf, postgres, text])

theorem spoiled_arrayJoin : Spoiled call.arrayJoin := by
  have text := Site.spoiled_toText postgres moment
  unfold Call.arrayJoin
  dsimp only
  rw [moment]
  split
  · exact Ends.after fun _ => text
  · exact text

theorem spoiled_parsePostgres {format : String} : Spoiled (call.parsePostgres format) := by
  refine Ends.after fun template => (Site.spoiled_toText postgres moment).bind fun {t} text => ?_
  have matched : ∀ e : Expr, (Expr.caseWhen [⟨regexMatch t template.regex, e⟩] none).obeys
      (.immutable []) = false := by
    simp [obeys_caseWhen_eq, regexMatch, obeys_binary_eq, text]
  cases Format.Layout.read format with
  | ok layout => exact .ok (matched _)
  | error fault =>
    cases call.target.placement with
    | generated => exact .error _
    | select => exact .ok (matched _)

end

theorem spoiled_concatenate {operand : Operand} (member : operand ∈ call.operands)
    (moment : operand.kind = .datetime) : Spoiled call.concatenate :=
  (Ends.mapM_mem member (Site.spoiled_toTextOrEmpty postgres moment)).bind
    fun ⟨_, inside, spoiled⟩ => .ok (obeys_sequence_eq_false inside spoiled)

theorem spoiled_positionOf (folds : ∀ {e : Expr}, e.obeys (.immutable []) = false →
      (fold e).obeys (.immutable []) = false)
    (moment : (call.operand 0).kind = .datetime ∨ (call.operand 1).kind = .datetime) :
    Spoiled (call.positionOf fold) := by
  have found : ∀ {needle haystack : Expr},
      needle.obeys (.immutable []) = false ∨ haystack.obeys (.immutable []) = false →
        Spoiled (if call.has 2 then do
          return positionFrom call.dialect needle haystack (← call.position 2)
        else return call.dialect.position haystack needle) := by
    intro needle haystack spoiled
    have within : ∀ e : Expr,
        (Dialect.postgres.position (.call "SUBSTR" [haystack, e]) needle).obeys (.immutable []) =
          false := by
      rcases spoiled with first | second
      · simp [Dialect.position, first]
      · simp [Dialect.position, second]
    split
    · refine Ends.after fun start => .ok ?_
      simp [positionFrom, postgres, Expr.ite, obeys_caseWhen_eq, Expr.eq, obeys_binary_eq, within]
    · refine .ok ?_
      rcases spoiled with first | second
      · simp [Dialect.position, postgres, first]
      · simp [Dialect.position, postgres, second]
  rcases moment with moment | moment
  · exact (Site.spoiled_toTextOrEmpty postgres moment).bind fun needle => Ends.after fun _ =>
      found (.inl (folds needle))
  · exact Ends.after fun _ => (Site.spoiled_toTextOrEmpty postgres moment).bind fun haystack =>
      found (.inr (folds haystack))

theorem spoiled_search
    (moment : (call.operand 0).kind = .datetime ∨ (call.operand 1).kind = .datetime) :
    Spoiled call.search :=
  (spoiled_positionOf postgres (fun spoiled => by simp [spoiled]) moment).bind fun place =>
    .ok (by simp [Expr.nullIf, place])

theorem spoiled_replace
    (moment : (call.operand 0).kind = .datetime ∨ (call.operand 3).kind = .datetime) :
    Spoiled call.replace := by
  rcases moment with moment | moment
  · exact (Site.spoiled_toTextOrEmpty postgres moment).bind fun text => Ends.after fun _ =>
      Ends.after fun _ => Ends.after fun _ => .ok (by simp [splice, obeys_chain_eq, text])
  · exact Ends.after fun _ => Ends.after fun _ => Ends.after fun _ =>
      (Site.spoiled_toTextOrEmpty postgres moment).bind fun new =>
        .ok (by simp [splice, obeys_chain_eq, new])

theorem spoiled_substituteAll (moment : (call.operand 0).kind = .datetime ∨
      (call.operand 1).kind = .datetime ∨ (call.operand 2).kind = .datetime) :
    Spoiled call.substituteAll := by
  rcases moment with moment | moment | moment
  · exact (Site.spoiled_toText postgres moment).bind fun text => Ends.after fun _ =>
      Ends.after fun _ => .ok (by simp [text])
  · exact Ends.after fun _ => (Site.spoiled_toTextOrEmpty postgres moment).bind fun old =>
      Ends.after fun _ => .ok (by simp [old])
  · exact Ends.after fun _ => Ends.after fun _ =>
      (Site.spoiled_toTextOrEmpty postgres moment).bind fun new => .ok (by simp [new])

theorem spoiled_substituteNth : Spoiled call.substituteNth := by
  have joins : ∀ args, (Rule.immutable []).node (.call "array_to_string" args) = false :=
    not_immutable (by decide) (by decide)
  unfold Call.substituteNth
  rw [postgres]
  exact Ends.after fun _ => Ends.after fun _ => Ends.after fun _ => Ends.after fun _ =>
    .ok (by simp [substitutePostgres, obeys_caseWhen_eq, obeys_chain_eq, joins])

theorem spoiled_regexpReplace
    (moment : (call.operand 0).kind = .datetime ∨ (call.operand 2).kind = .datetime) :
    Spoiled call.regexpReplace := by
  refine Ends.after fun pattern => ?_
  cases Pattern.isText pattern with
  | false => exact .error _
  | true =>
    rcases moment with moment | moment
    · exact (Site.spoiled_toTextOrEmpty postgres moment).bind fun text => Ends.after fun _ =>
        .ok (by simp [text])
    · exact Ends.after fun _ => (Site.spoiled_toTextOrEmpty postgres moment).bind fun new =>
        .ok (by simp [new])

theorem spoiled_add {operand : Operand} (read : operand ∈ call.addedAsText)
    (moment : operand.kind = .datetime) : Spoiled call.add := by
  have text := Site.spoiled_toTextOrEmpty postgres moment
  unfold addedAsText at read
  unfold Call.add
  dsimp only
  split at read
  · rw [if_pos ‹_›]
    rcases List.mem_pair.1 read with rfl | rfl
    · exact text.bind fun first => Ends.after fun _ =>
        .ok (obeys_binary_eq.trans (by rw [first, Bool.false_and, Bool.and_false]))
    · exact Ends.after fun _ => text.bind fun second =>
        .ok (obeys_binary_eq.trans (by rw [second, Bool.and_false, Bool.and_false]))
  · cases read

theorem spoiled_switch {operand : Operand} (read : operand ∈ call.matchedAsText)
    (moment : operand.kind = .datetime) : Spoiled call.switch := by
  unfold matchedAsText at read
  unfold Call.switch
  cases operands : call.operands with
  | nil =>
    rw [operands] at read
    cases read
  | cons subject rest =>
    rw [operands] at read
    obtain ⟨pair, member, compared⟩ := List.mem_flatMap.1 read
    have test : Spoiled (call.equal false subject pair.1) :=
      Site.spoiled_equal postgres compared moment
    -- The condition of one branch is enough, wherever the branch stands.
    let spoils := fun branch : Branch => branch.condition.obeys (.immutable []) = false
    refine (Ends.mapM_mem (p := spoils) member ?_).bind fun ⟨branch, inside, spoiled⟩ =>
      Ends.after fun otherwise => .ok ?_
    · exact test.bind fun spoiled => Ends.after fun _ => .ok spoiled
    · rw [obeys_caseWhen_eq, Bool.eq_false_iff]
      intro obeys
      simp only [Bool.and_eq_true] at obeys
      have good := (branchesObey_iff.1 obeys.2.1 branch inside).1
      rw [spoiled] at good
      cases good

/-- What shows moments only has no other way to do so. -/
theorem spoiled_format (format : String) : (call.format format).obeys (.immutable []) = false := by
  rw [Call.format, postgres, shownIn, obeys_call, not_immutable (by decide) (by decide),
    Bool.false_and]

theorem spoiled_of_asText {operand : Operand} (read : operand ∈ call.asText)
    (moment : operand.kind = .datetime) : Spoiled call.compile := by
  have only : ∀ {one : Operand}, operand ∈ [one] → one.kind = .datetime := by
    intro one member
    rwa [← List.mem_singleton.1 member]
  have either : ∀ {one other : Operand}, operand ∈ [one, other] →
      one.kind = .datetime ∨ other.kind = .datetime := by
    intro one other member
    rcases List.mem_cons.1 member with rfl | member
    · exact .inl moment
    · exact .inr (only member)
  -- What is read as a text and what is compiled are taken apart together.
  revert read
  unfold asText Call.compile Call.own? Call.shared
  cases call.operation with
  | concatenate | concat => exact fun read => spoiled_concatenate postgres read moment
  | find => exact fun read => spoiled_positionOf postgres id (either read)
  | search => exact fun read => spoiled_search postgres (either read)
  | mid => exact fun read => spoiled_mid postgres (only read)
  | left => exact fun read => spoiled_left postgres (only read)
  | right => exact fun read => spoiled_right postgres (only read)
  | lower | upper | trim => exact fun read => spoiled_textFunction postgres (only read)
  | len => exact fun read => spoiled_len postgres (only read)
  | rept => exact fun read => spoiled_rept postgres (only read)
  | textAll | castToString => exact fun read => Site.spoiled_toText postgres (only read)
  | arrayJoin => exact fun read => spoiled_arrayJoin postgres (only read)
  | replace => exact fun read => spoiled_replace postgres (either read)
  | substitute =>
    intro read
    cases call.has 3 with
    | true => exact spoiled_substituteNth postgres
    | false =>
      refine spoiled_substituteAll postgres ?_
      rcases List.mem_cons.1 read with rfl | read
      · exact .inl moment
      · exact .inr (either read)
  | regexpReplace =>
    rw [postgres]
    exact fun read => spoiled_regexpReplace postgres (either read)
  | datetimeParse =>
    unfold Call.datetimeParse
    rw [postgres]
    cases call.has 1 with
    | true => exact fun read => Ends.after fun _ => spoiled_parsePostgres postgres (only read)
    | false => exact fun read => absurd read List.not_mem_nil
  | add => exact fun read => spoiled_add postgres read moment
  | equal | notEqual => exact fun read => Site.spoiled_equal postgres read moment
  | switch => exact fun read => spoiled_switch postgres read moment
  | _ => exact fun read => absurd read List.not_mem_nil

theorem spoiled_compile (some : call.stableFunctions ≠ []) : Spoiled call.compile := by
  cases shows : call.showsMoment with
  | true =>
    rcases Bool.or_eq_true_iff.1 shows with formats | read
    · unfold Call.compile Call.own?
      cases named : call.operation with
      | dateStr | timeStr => exact .ok (spoiled_format postgres _)
      | datetimeFormat => exact Ends.after fun format => .ok (spoiled_format postgres format)
      | _ =>
        rw [named] at formats
        cases formats
    · obtain ⟨operand, member, moment⟩ := List.any_eq_true.1 read
      exact spoiled_of_asText postgres member (beq_iff_eq.1 moment)
  | false =>
    cases joins : call.joinsParts with
    | true =>
      obtain ⟨named, fourth⟩ := Bool.and_eq_true_iff.1 joins
      unfold Call.compile Call.own?
      rw [beq_iff_eq.1 named, fourth]
      exact spoiled_substituteNth postgres
    | false => exact absurd (by rw [stableFunctions, shows, joins]; rfl) some

end Call

/--
A generated column of Postgres calls immutable functions only, unless it writes a moment as a text
or puts a text together from its parts. Each needs a function that is only stable, and there are no
others.
-/
theorem generated_immutable_iff (job : Job) (name : String) (args : List String)
    (hints : List Hint) (sql : String)
    (rendered : Target.render ⟨.postgres, .generated⟩ job name args hints = .ok sql) :
    ∃ call : Call, call.job = job ∧ call.target = ⟨.postgres, .generated⟩ ∧ call.args = args ∧
      call.hints = hints ∧ Operation.ofName? name = some call.operation ∧
      ∃ e, call.compile = .ok e ∧ sql = e.print .postgres ∧
        e.obeys (.immutable call.stableFunctions) = true ∧
        (e.obeys (.immutable []) = true ↔ call.showsMoment = false ∧ call.joinsParts = false) := by
  obtain ⟨call, same, target, given, hinted, named, e, compiled, printed, obeys⟩ :=
    exists_compile_of_render rendered
  have kept : e.obeys (.immutable call.stableFunctions) = true := by
    exact e.obeys_mono (Rule.emitted_implies_immutable _) obeys
  refine ⟨call, same, target, given, hinted, named, e, compiled, printed, kept, ?_⟩
  constructor
  · intro immutable
    by_contra used
    have some : call.stableFunctions ≠ [] := by
      intro none
      cases shows : call.showsMoment <;> cases joins : call.joinsParts <;>
        simp [Call.stableFunctions, shows, joins] at none used
    have spoiled := Call.spoiled_compile (by rw [Call.dialect, target]) some
    rw [compiled] at spoiled
    cases spoiled with
    | ok good =>
      rw [good] at immutable
      cases immutable
  · rintro ⟨shows, joins⟩
    rw [Call.stableFunctions, shows, joins] at kept
    exact kept

def releaseJob : Job :=
  .ofCatalog (.ofFields [.ofStorage "fld1" "released" .datetime]) ⟨0, 0⟩

theorem generated_immutable_iff_year : ∃ sql,
    Target.render ⟨.postgres, .generated⟩ releaseJob "YEAR" ["\"released\""] [] = .ok sql ∧
      ∃ call : Call, Operation.ofName? "YEAR" = some call.operation ∧
        ∃ e, call.compile = .ok e ∧ sql = e.print .postgres ∧
          e.obeys (.immutable []) = true := by
  obtain ⟨call, same, target, given, hinted, named, e, compiled, printed, -, exactly⟩ :=
    generated_immutable_iff releaseJob "YEAR" ["\"released\""] [] _ rfl
  refine ⟨_, rfl, call, named, e, compiled, printed, exactly.2 ?_⟩
  have year : call.operation = .year := by
    have known : Operation.ofName? "YEAR" = some .year := by decide
    exact Option.some.inj (named.symm.trans known)
  constructor
  · rw [Call.showsMoment, Call.asText, year]
    rfl
  · rw [Call.joinsParts, year]
    rfl

/-- The date of a release as a text calls `to_char`, which is only stable. -/
theorem dateStr_not_immutable :
    Target.render ⟨.postgres, .generated⟩ releaseJob "DATESTR" ["\"released\""] [] =
        .ok "to_char((\"released\" AT TIME ZONE 'UTC'), 'YYYY\"-\"MM\"-\"DD')" ∧
      ∃ e, Call.compile
          { job := releaseJob, target := ⟨.postgres, .generated⟩, operation := .dateStr
            args := ["\"released\""], hints := [] } = .ok e ∧
        e.obeys (.immutable []) = false := by
  refine ⟨by decide, _, rfl, ?_⟩
  rfl

end SheetSql
