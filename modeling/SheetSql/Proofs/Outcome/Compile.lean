import SheetSql.Compile.Dispatch
import SheetSql.Proofs.Outcome.Array
import SheetSql.Proofs.Outcome.DateText

namespace SheetSql

/-! How the compilation of like calls ends, by their operation. -/

attribute [local simp] Expr.operator_eq

def Operation.literalAt? : Operation → Option Nat
  | .regexpReplace | .weekday | .fromNow | .toNow | .datetimeFormat | .datetimeParse => some 1
  | .datetimeDiff | .workday | .isSame | .isAfter | .isBefore | .dateAdd => some 2
  | .substitute => some 3
  | _ => none

def Operation.needsQuery : Operation → Nat → Bool
  | .arrayUnique, _ | .arrayFlatten, _ | .arrayCompact, _ | .encodeUrl, _ => true
  | .substitute, n => n == 4
  | _, _ => false

def Operation.readsFormat : Operation → Nat → Bool
  | .regexpReplace, _ => true
  | .datetimeParse, n => n == 2
  | _, _ => false

/-- How many arguments the expression of an operation takes to be one of the dialect. -/
def Operation.needed : Operation → Nat
  | .sum | .average | .concatenate | .concat | .and | .logicalAnd | .or | .logicalOr | .xor
  | .countA | .count => 1
  | .switch => 3
  | _ => 0

def Operation.showsMoment : Operation → Bool
  | .dateStr | .timeStr | .datetimeFormat => true
  | _ => false

namespace Call

def asText (call : Call) : List Operand :=
  match call.operation with
  | .concatenate | .concat => call.operands
  | .find | .search => [call.operand 0, call.operand 1]
  | .mid | .left | .right | .lower | .upper | .trim | .len | .rept | .textAll | .castToString
  | .arrayJoin => [call.operand 0]
  | .replace => [call.operand 0, call.operand 3]
  | .substitute => [call.operand 0, call.operand 1, call.operand 2]
  | .regexpReplace => [call.operand 0, call.operand 2]
  | .datetimeParse => if call.has 1 then [call.operand 0] else []
  | .add => call.addedAsText
  | .equal | .notEqual => (call.operand 0).comparedAsText (call.operand 1)
  | .switch => call.matchedAsText
  | _ => []

def showsMoment (call : Call) : Bool :=
  call.operation.showsMoment || call.asText.any (·.kind == .datetime)

def joinsParts (call : Call) : Bool := call.operation == .substitute && call.has 3

/-- The functions that are only stable and that a call cannot do without on Postgres. -/
def stableFunctions (call : Call) : List String :=
  (if call.showsMoment then ["to_char"] else []) ++
    (if call.joinsParts then ["array_to_string"] else [])

def MayFail (call : Call) : Error → Prop
  | .unsupported name target =>
    name = call.operation.name ∧ target = call.target ∧ call.target.dialect = .sqlite ∧
      (call.operation = .regexpReplace ∨ call.operation = .encodeUrl)
  | .needsSubquery operation =>
    operation = call.operation ∧ call.target.placement = .generated ∧
      (operation.needsQuery call.args.length = true ∨
        ∃ operand ∈ call.operands, operand.kind = .json)
  | .argument operation position _ =>
    operation = call.operation ∧ operation.literalAt? = some position ∧
      position < call.args.length
  | .invalidFormat _ _ => call.operation.readsFormat call.args.length = true
  | .argumentCount _ _ | .hintCount _ _ _ | .unknownZone _ | .unknownField _ => False

def accepted (call : Call) : Bool := call.operation.arity.accepts call.args.length

def terms (call : Call) (l : Likeness) : Terms :=
  ⟨l, call.stableFunctions, fun error => call.accepted = true → call.MayFail error⟩

/--
Whether arguments stand where the elements of others are looked at: the separator between them, or
the test that there are any.
-/
def mixes (call : Call) : Bool :=
  match call.operation with
  | .arrayUnique | .arrayFlatten | .arrayCompact => true
  | .arrayJoin => (call.operand 0).kind == .json && call.has 1
  | _ => false

variable {l : Likeness} {call call' : Call}

theorem fits_terms (site : call'.toSite = call.toSite)
    (operands : List.Forall₂ (Operand.Alike l) call.operands call'.operands)
    (queries : call.target.placement = .select → l.queries) : call.Fits (call.terms l) call' :=
  fits_of_alike site operands queries fun operand member json generated _ =>
    ⟨rfl, generated, .inr ⟨operand, member, json⟩⟩

theorem mayShow_of_asText {operand : Operand} (read : operand ∈ call.asText) :
    operand.MayShow call.toSite (call.terms l) := by
  intro moment _ _
  have shows : call.showsMoment = true := by
    rw [showsMoment, Bool.or_eq_true, List.any_eq_true]
    exact .inr ⟨operand, read, by simp [moment]⟩
  simp [terms, stableFunctions, shows]

theorem mem_stable_of_showsMoment (shows : call.operation.showsMoment = true) :
    "to_char" ∈ (call.terms l).stable := by
  simp [terms, stableFunctions, showsMoment, shows]

theorem allows_fault (literal : call.operation.literalAt? = some i)
    (given : call.accepted = true → call.has i = true) (fault : ArgumentFault) :
    (call.terms l).allows (call.fault i fault) :=
  fun accepted => ⟨rfl, literal, of_decide_eq_true (given accepted)⟩

theorem allows_needsSubquery
    (needs : call.accepted = true → call.operation.needsQuery call.args.length = true)
    (generated : call.target.placement = .generated) :
    (call.terms l).allows (.needsSubquery call.operation) :=
  fun accepted => ⟨rfl, generated, .inl (needs accepted)⟩

theorem least_le (accepted : call.accepted = true) :
    call.operation.arity.least ≤ call.args.length :=
  of_decide_eq_true (Bool.and_eq_true_iff.1 accepted).1

theorem has_of_least (least : i < call.operation.arity.least) (accepted : call.accepted = true) :
    call.has i = true :=
  decide_eq_true (Nat.lt_of_lt_of_le least (least_le accepted))

theorem length_eq_of_has (most : call.operation.arity.most = some (i + 1))
    (given : call.has i = true) (accepted : call.accepted = true) : call.args.length = i + 1 := by
  have bounds := (Bool.and_eq_true_iff.1 accepted).2
  rw [most, Option.all_some, decide_eq_true_eq] at bounds
  exact Nat.le_antisymm bounds (of_decide_eq_true given)

theorem needed_le (accepted : call.accepted = true) :
    call.operation.needed ≤ call.args.length := by
  refine Nat.le_trans ?_ (least_le accepted)
  cases call.operation <;> decide

section

variable (fits : call.Fits (call.terms l) call')
  (free : call.mixes = true → ∀ query, l.admits query)

include fits free

theorem own?_keeps : Option.Rel (call.Keeps (call.terms l)) call.own? call'.own? := by
  have shows : ∀ {operand : Operand}, operand ∈ call.asText →
      operand.MayShow call.toSite (call.terms l) := mayShow_of_asText
  have fault : ∀ {i}, call.operation.literalAt? = some i → call.has i = true →
      ∀ fault, (call.terms l).allows (call.fault i fault) :=
    fun literal given => allows_fault literal fun _ => given
  unfold asText at shows
  unfold Call.own?
  rw [has_eq fits, dialect_eq fits, jobClock_eq fits, fits.site]
  cases named : call.operation with
  | max => exact .some (max_keeps fits)
  | min => exact .some (min_keeps fits)
  | round => exact .some (round_keeps fits)
  | roundUp => exact .some (roundUp_keeps fits)
  | roundDown => exact .some (roundDown_keeps fits)
  | mod | modulo => exact .some (modulo_keeps fits)
  | right => exact .some (right_keeps fits (shows (by simp [named])))
  | rept => exact .some (rept_keeps fits (shows (by simp [named])))
  | substitute =>
    cases fourth : call.has 3 with
    | true =>
      -- The occurrence is the last argument, so that the count of arguments is known as well.
      have four : call.accepted = true → call.args.length = 4 :=
        length_eq_of_has (by rw [named]; rfl) fourth
      refine .some (substituteNth_keeps fits (shows (by simp [named])) (shows (by simp [named]))
        (shows (by simp [named])) (fault (by rw [named]; rfl) fourth)
        (allows_needsSubquery fun accepted => by rw [named, four accepted]; rfl) fun _ _ => ?_)
      simp [terms, stableFunctions, joinsParts, named, fourth]
    | false => exact .none
  | regexpReplace =>
    cases call.dialect with
    | postgres =>
      have pattern : call.accepted = true → call.has 1 = true :=
        has_of_least (by rw [named]; decide)
      exact .some (regexpReplace_keeps fits (shows (by simp [named])) (shows (by simp [named]))
        (allows_fault (by rw [named]; rfl) pattern _) fun _ _ => by
          simp [MayFail, named, Operation.readsFormat])
    | sqlite => exact .none
  | encodeUrl =>
    cases dialect : call.dialect with
    | postgres =>
      exact .some (encodeUrl_keeps fits dialect
        (allows_needsSubquery fun _ => by rw [named]; rfl))
    | sqlite => exact .none
  | error =>
    dsimp only
    split
    · rename_i select
      exact .some (raise_keeps fits select)
    · exact .none
  | now =>
    cases placement : call.target.placement with
    | select =>
      refine .some (.ok ?_)
      rw [Site.target_select placement]
      exact liveNow_sound
    | generated => exact .none
  | today =>
    cases placement : call.target.placement with
    | select =>
      refine .some (.ok ?_)
      rw [Site.target_select placement]
      exact liveToday_sound
    | generated => exact .none
  | year | month | day | hour | minute => exact .some (.ok (part_sound fits (by decide) _))
  | second => exact .some (.ok (second_sound fits))
  | weekNum => exact .some (.ok (weekNum_sound fits))
  | weekday => exact .some (weekday_keeps fits (fault (by rw [named]; rfl)))
  | datetimeDiff =>
    exact .some (datetimeDiff_keeps fits fun third => fault (by rw [named]; rfl) third _)
  | fromNow | toNow =>
    exact .some (fromNow_keeps fits fun second => fault (by rw [named]; rfl) second _)
  | workday => exact .some (workday_keeps fits fun third => fault (by rw [named]; rfl) third _)
  | workdayDiff => exact .some (.ok (workdayDiff_sound fits))
  | isSame | isAfter | isBefore =>
    exact .some (dateRelation_keeps fits rfl fun third => fault (by rw [named]; rfl) third _)
  | dateAdd =>
    exact .some (dateAdd_keeps fits
      (allows_fault (by rw [named]; rfl) (has_of_least (by rw [named]; decide)) _))
  | dateStr | timeStr =>
    exact .some (.ok (format_sound fits
      (fun _ _ => mem_stable_of_showsMoment (by rw [named]; rfl)) _))
  | datetimeFormat =>
    exact .some (datetimeFormat_keeps fits
      (fun _ _ => mem_stable_of_showsMoment (by rw [named]; rfl))
      fun second => fault (by rw [named]; rfl) second _)
  | datetimeParse =>
    refine .some (datetimeParse_keeps fits (fun second => shows (by simp [named, second]))
      (fun second => fault (by rw [named]; rfl) second _) fun second _ _ accepted => ?_)
    have two : call.args.length = 2 := length_eq_of_has (by rw [named]; rfl) second accepted
    simp [MayFail, named, two, Operation.readsFormat]
  | arrayUnique | arrayFlatten | arrayCompact =>
    exact .some (arrayOf_keeps fits (free (by simp [mixes, named]))
      (allows_needsSubquery fun _ => by rw [named]; rfl))
  | _ => exact .none

theorem shared_keeps (rest : call.own? = none) (enough : call.operation.needed ≤ call.args.length) :
    call.Keeps (call.terms l) call.shared call'.shared := by
  have shows : ∀ {operand : Operand}, operand ∈ call.asText →
      operand.MayShow call.toSite (call.terms l) := mayShow_of_asText
  have some : 0 < call.operation.needed → call.args ≠ [] := fun needed =>
    List.ne_nil_of_length_pos (Nat.lt_of_lt_of_le needed enough)
  unfold asText at shows
  -- That there is no other way rules out the operations that are not shared.
  unfold Call.own? at rest
  unfold Call.shared
  rw [has_eq fits, unsupported_eq fits, fits.site]
  cases named : call.operation with
  | sum => exact sum_keeps fits (some (by rw [named]; decide))
  | average => exact average_keeps fits (some (by rw [named]; decide))
  | ceiling => exact ceiling_keeps fits
  | floor => exact floor_keeps fits
  | even => exact even_keeps fits
  | odd => exact odd_keeps fits
  | int => exact int_keeps fits
  | abs => exact abs_keeps fits
  | sqrt => exact sqrt_keeps fits
  | power => exact power_keeps fits
  | exp => exact exp_keeps fits
  | log => exact log_keeps fits
  | value | castToNumber => exact number_keeps fits 0
  | concatenate | concat =>
    exact concatenate_keeps fits (some (by rw [named]; decide))
      fun operand member => shows (by simpa [named] using member)
  | find => exact find_keeps fits (shows (by simp [named])) (shows (by simp [named]))
  | search => exact search_keeps fits (shows (by simp [named])) (shows (by simp [named]))
  | mid => exact mid_keeps fits (shows (by simp [named]))
  | left => exact left_keeps fits (shows (by simp [named]))
  | replace =>
    exact replace_keeps fits (shows (by simp [named])) (shows (by simp [named]))
  | substitute =>
    cases fourth : call.has 3 with
    | true =>
      rw [named, fourth] at rest
      cases rest
    | false =>
      exact substituteAll_keeps fits (shows (by simp [named])) (shows (by simp [named]))
        (shows (by simp [named]))
  | lower | upper | trim =>
    exact textFunction_keeps fits (shows (by simp [named])) (by decide) (by decide)
  | len => exact len_keeps fits (shows (by simp [named]))
  | t => exact t_keeps fits
  | textAll | castToString => exact text_keeps fits 0 (shows (by simp [named]))
  | ifElse => exact ifElse_keeps fits
  | switch =>
    rw [named] at enough
    exact switch_keeps fits enough fun operand member =>
      shows (by simpa [named] using member)
  | and | logicalAnd | or | logicalOr =>
    exact logical_keeps fits rfl (some (by rw [named]; decide))
  | xor => exact xor_keeps fits (some (by rw [named]; decide))
  | not => exact not_keeps fits
  | castToBoolean => exact truth_keeps fits 0
  | blank | error => exact .ok (by simp)
  | isError => exact .ok (by simpa using sqlAt_alike fits 0)
  | now =>
    cases placement : call.target.placement with
    | select =>
      rw [named, placement] at rest
      cases rest
    | generated => exact .ok (frozenNow_sound fits)
  | today =>
    cases placement : call.target.placement with
    | select =>
      rw [named, placement] at rest
      cases rest
    | generated => exact .ok (frozenToday_sound fits)
  | castToDate => exact .ok (datetime_sound fits 0)
  | createdTime | lastModifiedTime | recordId | autoNumber =>
    exact .ok (systemColumn_sound fits _)
  | countAll => exact .ok (countAll_sound fits)
  | countA => exact countA_keeps fits (some (by rw [named]; decide))
  | count => exact count_keeps fits (some (by rw [named]; decide))
  | arrayJoin =>
    exact arrayJoin_keeps fits (shows (by simp [named])) fun known given =>
      free (by simp [mixes, named, known, given])
  | add => exact add_keeps fits fun operand member => shows (by simpa [named] using member)
  | subtract | multiply => exact arithmetic_keeps fits rfl
  | divide => exact divide_keeps fits
  | unaryMinus => exact unaryMinus_keeps fits
  | equal | notEqual =>
    exact equality_keeps fits fun operand member =>
      shows (by simpa [named] using member)
  | greaterThan | greaterThanOrEqual | lessThan | lessThanOrEqual =>
    exact comparison_keeps fits rfl
  | regexpReplace =>
    cases dialect : call.dialect with
    | postgres =>
      rw [named, dialect] at rest
      cases rest
    | sqlite => exact .error fun _ => ⟨rfl, rfl, dialect, .inl named⟩
  | encodeUrl =>
    cases dialect : call.dialect with
    | postgres =>
      rw [named, dialect] at rest
      cases rest
    | sqlite => exact .error fun _ => ⟨rfl, rfl, dialect, .inr named⟩
  | _ =>
    rw [named] at rest
    cases rest

theorem compile_keeps (enough : call.operation.needed ≤ call.args.length) :
    call.Keeps (call.terms l) call.compile call'.compile := by
  have own := own?_keeps fits free
  have shared := fun rest => shared_keeps fits free rest enough
  unfold Call.compile
  generalize call.own? = result, call'.own? = result' at own shared
  cases own with
  | none => exact shared rfl
  | some agree => exact agree

omit free

/-- With too few arguments the expression is not one of the dialect, and like all the same. -/
theorem shared_alike_of_few (few : call.args.length < call.operation.needed) :
    Agree (Expr.Alike l) (fun _ => True) call.shared call'.shared := by
  have each := fits.operands
  have short : call.operands.length < call.operation.needed := by
    rwa [Call.operands, List.length_mapIdx]
  unfold Call.shared
  rw [fits.site]
  cases named : call.operation with
  | switch =>
    unfold switch
    rw [fault_eq fits, fits.site]
    generalize call.operands = list, call'.operands = list' at each short
    rw [named] at short
    cases each with
    | nil => exact .error trivial
    | cons _ others =>
      cases others with
      | nil => exact .ok (by simp)
      | @cons default default' _ _ same others =>
        cases others with
        | nil =>
          have type : call.branchType [default'] = call.branchType [default] :=
            Site.branchType_eq (.cons same.toAlike .nil)
          simp only [pairs, List.map_nil, List.nil_append, Option.toList_some, type,
            List.mapM_nil, pure_bind, Option.mapM_some, map_eq_pure_bind, bind_assoc]
          have value := Site.branchValue_keeps (List.mem_singleton_self _) same
          exact value.alike.bind fun alike => .ok (by simpa [terms] using alike)
        | cons _ _ => exact absurd short (by simp [Operation.needed])
  | sum | average | concatenate | concat | and | logicalAnd | or | logicalOr | xor | countA
  | count =>
    rw [named] at short
    have none : call.operands = [] := List.eq_nil_of_length_eq_zero (Nat.lt_one_iff.1 short)
    rw [none] at each
    have none' : call'.operands = [] := List.forall₂_nil_left_iff.1 each
    simp only [sum, average, concatenate, logical, xor, countA, count, none, none']
    exact .ok (by simp [Expr.sequence])
  | _ =>
    rw [named] at few
    cases few

end

/-- Like calls compile to like expressions, or both fail. -/
theorem compile_alike (site : call'.toSite = call.toSite)
    (operands : List.Forall₂ (Operand.Alike l) call.operands call'.operands)
    (queries : call.target.placement = .select → l.queries)
    (free : call.mixes = true → ∀ query, l.admits query) :
    Agree (Expr.Alike l) (fun _ => True) call.compile call'.compile := by
  have fits := fits_terms site operands queries
  by_cases enough : call.operation.needed ≤ call.args.length
  · exact (compile_keeps fits free enough).alike
  · have own := own?_keeps fits free
    unfold Call.compile
    generalize call.own? = result, call'.own? = result' at own
    cases own with
    | none => exact shared_alike_of_few fits (Nat.lt_of_not_le enough)
    | some agree => exact agree.alike

end Call

end SheetSql
