import SheetSql.Proofs.Outcome.Numeric
import SheetSql.Render

namespace SheetSql

/-! The same call in a select and in a generated column. -/

def Kind.isScalar : Kind → Bool
  | .blank | .number | .text | .boolean | .datetime => true
  | .json | .unknown => false

/--
The operations that look at the place: the present, the columns of every table, what needs a query
or fails at run time, and what a dialect has nowhere or only in a select.
-/
def Operation.seesPlacement (dialect : Dialect) (count : Nat) : Operation → Bool
  | .now | .today | .fromNow | .toNow | .error => true
  | .recordId | .autoNumber | .createdTime | .lastModifiedTime => true
  | .arrayUnique | .arrayFlatten | .arrayCompact | .encodeUrl => true
  | .regexpReplace => dialect == .sqlite
  | .substitute => dialect == .sqlite && decide (3 < count)
  | .datetimeParse => dialect == .postgres && decide (1 < count)
  | _ => false

namespace Site

def placed (site : Site) (placement : Placement) : Site :=
  { site with target := { site.target with placement } }

variable {site : Site} {placement : Placement} {operand left right : Operand}

section

variable (scalar : operand.kind.isScalar = true)

include scalar

theorem toNumber_placed : (site.placed placement).toNumber operand = site.toNumber operand := by
  unfold Site.toNumber
  cases kind : operand.kind with
  | json =>
    rw [kind] at scalar
    cases scalar
  | _ => rfl

theorem toNumberOrZero_placed :
    (site.placed placement).toNumberOrZero operand = site.toNumberOrZero operand := by
  rw [Site.toNumberOrZero, Site.toNumberOrZero, toNumber_placed scalar]

theorem toText_placed : (site.placed placement).toText operand = site.toText operand := by
  unfold Site.toText
  cases kind : operand.kind with
  | json =>
    rw [kind] at scalar
    cases scalar
  | _ => rfl

theorem toTextOrEmpty_placed :
    (site.placed placement).toTextOrEmpty operand = site.toTextOrEmpty operand := by
  rw [Site.toTextOrEmpty, Site.toTextOrEmpty, toText_placed scalar]

theorem toBool_placed : (site.placed placement).toBool operand = site.toBool operand := by
  unfold Site.toBool
  rw [toNumberOrZero_placed scalar]
  cases kind : operand.kind with
  | unknown =>
    rw [kind] at scalar
    cases scalar
  | _ => rfl

theorem branchValue_placed (type : BranchType) :
    (site.placed placement).branchValue type operand = site.branchValue type operand := by
  unfold Site.branchValue
  rw [toText_placed scalar, toNumber_placed scalar, toBool_placed scalar]
  rfl

end

section

variable (first : left.kind.isScalar = true) (second : right.kind.isScalar = true)

include first second

theorem compareTexts_placed (op : BinOp) :
    (site.placed placement).compareTexts op left right = site.compareTexts op left right := by
  rw [Site.compareTexts, Site.compareTexts, toTextOrEmpty_placed first,
    toTextOrEmpty_placed second]

theorem compareNumbers_placed (op : BinOp) :
    (site.placed placement).compareNumbers op left right = site.compareNumbers op left right := by
  rw [Site.compareNumbers, Site.compareNumbers, toNumberOrZero_placed first,
    toNumberOrZero_placed second]

theorem equal_placed (negated : Bool) :
    (site.placed placement).equal negated left right = site.equal negated left right := by
  unfold Site.equal
  simp only [compareTexts_placed first second, compareNumbers_placed first second,
    toBool_placed first, toBool_placed second]
  rfl

theorem compare_placed (op : BinOp) :
    (site.placed placement).compare op left right = site.compare op left right := by
  unfold Site.compare
  rw [compareTexts_placed first second, compareNumbers_placed first second]
  rfl

end

end Site

theorem mapM_eq {ε α β : Type} {f g : α → Except ε β} {list : List α}
    (each : ∀ a ∈ list, f a = g a) : list.mapM f = list.mapM g := by
  induction list with
  | nil => rfl
  | cons first rest ih =>
    rw [List.mapM_cons, List.mapM_cons, each first List.mem_cons_self,
      ih fun a member => each a (List.mem_cons_of_mem _ member)]

namespace Call

def placed (call : Call) (placement : Placement) : Call :=
  { call with toSite := call.toSite.placed placement }

def IsScalar (call : Call) : Prop :=
  ∀ operand ∈ call.operands, operand.kind.isScalar = true

variable {call : Call} {placement : Placement}

section

variable (call : Call) (placement : Placement)

theorem toSite_placed : (call.placed placement).toSite = call.toSite.placed placement := rfl

@[simp] theorem operation_placed : (call.placed placement).operation = call.operation := rfl

@[simp] theorem dialect_placed : (call.placed placement).dialect = call.dialect := rfl

@[simp] theorem has_placed (i : Nat) : (call.placed placement).has i = call.has i := rfl

@[simp] theorem operand_placed (i : Nat) :
    (call.placed placement).operand i = call.operand i := rfl

@[simp] theorem operands_placed : (call.placed placement).operands = call.operands := rfl

@[simp] theorem fault_placed (i : Nat) (fault : ArgumentFault) :
    (call.placed placement).fault i fault = call.fault i fault := rfl

@[simp] theorem textLiteral_placed (i : Nat) :
    (call.placed placement).textLiteral i = call.textLiteral i := rfl

@[simp] theorem occurrence_placed (i : Nat) :
    (call.placed placement).occurrence i = call.occurrence i := rfl

@[simp] theorem moment_placed (i : Nat) : (call.placed placement).moment i = call.moment i := rfl

@[simp] theorem clock_placed (operand : Operand) :
    (call.placed placement).clock operand = call.clock operand := rfl

@[simp] theorem branchType_placed (branches : List Operand) :
    (call.placed placement).branchType branches = call.branchType branches := rfl

end

section

variable (scalar : call.IsScalar)

include scalar

theorem isScalar_operand (i : Nat) : (call.operand i).kind.isScalar = true := by
  unfold Call.operand Call.sqlAt
  cases given : call.args[i]? with
  | none => rfl
  | some sql =>
    refine scalar _ (List.mem_iff_getElem?.2 ⟨i, ?_⟩)
    rw [Call.operands, List.getElem?_mapIdx, given]
    rfl

theorem mapM_operands_placed {α : Type} {f g : Operand → Except Error α}
    (each : ∀ {operand}, operand.kind.isScalar = true → f operand = g operand) :
    (call.placed placement).operands.mapM f = call.operands.mapM g :=
  mapM_eq fun operand member => each (scalar operand member)

theorem number_placed (i : Nat) : (call.placed placement).number i = call.number i :=
  Site.toNumber_placed (isScalar_operand scalar i)

theorem numberOrZero_placed (i : Nat) :
    (call.placed placement).numberOrZero i = call.numberOrZero i :=
  Site.toNumberOrZero_placed (isScalar_operand scalar i)

theorem text_placed (i : Nat) : (call.placed placement).text i = call.text i :=
  Site.toText_placed (isScalar_operand scalar i)

theorem textOrEmpty_placed (i : Nat) :
    (call.placed placement).textOrEmpty i = call.textOrEmpty i :=
  Site.toTextOrEmpty_placed (isScalar_operand scalar i)

theorem truth_placed (i : Nat) : (call.placed placement).truth i = call.truth i :=
  Site.toBool_placed (isScalar_operand scalar i)

theorem numberOr_placed (i : Nat) (default : Expr) :
    (call.placed placement).numberOr i default = call.numberOr i default := by
  rw [Call.numberOr, Call.numberOr, number_placed scalar]
  rfl

theorem position_placed (i : Nat) : (call.placed placement).position i = call.position i := by
  rw [Call.position, Call.position, number_placed scalar]
  rfl

theorem length_placed (i : Nat) : (call.placed placement).length i = call.length i := by
  rw [Call.length, Call.length, number_placed scalar]
  rfl

theorem lengthOrOne_placed (i : Nat) :
    (call.placed placement).lengthOrOne i = call.lengthOrOne i := by
  rw [Call.lengthOrOne, Call.lengthOrOne, length_placed scalar]
  rfl

theorem places_placed : (call.placed placement).places = call.places := by
  rw [Call.places, Call.places, numberOrZero_placed scalar]
  rfl

theorem workdays_placed (i : Nat) : (call.placed placement).workdays i = call.workdays i := by
  rw [Call.workdays, Call.workdays, numberOrZero_placed scalar]
  rfl

theorem sum_placed : (call.placed placement).sum = call.sum := by
  rw [Call.sum, Call.sum]
  exact congrArg (· >>= _) (mapM_operands_placed scalar Site.toNumberOrZero_placed)

omit scalar in
theorem numberCount_placed {operand : Operand} (known : operand.kind.isScalar = true) :
    (call.placed placement).numberCount operand = call.numberCount operand := by
  unfold Call.numberCount
  cases kind : operand.kind with
  | json =>
    rw [kind] at known
    cases known
  | blank => rfl
  | _ => exact congrArg (· >>= _) (Site.toNumber_placed known)

theorem average_placed : (call.placed placement).average = call.average := by
  rw [Call.average, Call.average, sum_placed scalar]
  exact congrArg (· >>= _) (mapM_operands_placed scalar numberCount_placed)

theorem numbers_placed (aggregate : String) :
    (call.placed placement).numbers aggregate = call.numbers aggregate := by
  unfold Call.numbers
  refine mapM_eq fun operand member => ?_
  have known := scalar operand (List.mem_filter.1 member).1
  cases kind : operand.kind with
  | json =>
    rw [kind] at known
    cases known
  | _ => exact Site.toNumber_placed known

theorem countA_placed : (call.placed placement).countA = call.countA := by
  rw [Call.countA, Call.countA]
  refine congrArg (· >>= _) (mapM_operands_placed scalar fun {operand} known => ?_)
  unfold Call.valueCount
  cases kind : operand.kind with
  | json =>
    rw [kind] at known
    cases known
  | _ => rfl

theorem count_placed : (call.placed placement).count = call.count := by
  rw [Call.count, Call.count]
  refine congrArg (· >>= _) (mapM_operands_placed scalar fun {operand} known => ?_)
  rw [numberCount_placed known]

theorem concatenate_placed : (call.placed placement).concatenate = call.concatenate := by
  rw [Call.concatenate, Call.concatenate]
  exact congrArg (· >>= _) (mapM_operands_placed scalar Site.toTextOrEmpty_placed)

theorem logical_placed (op : BinOp) :
    (call.placed placement).logical op = call.logical op := by
  rw [Call.logical, Call.logical]
  exact congrArg (· >>= _) (mapM_operands_placed scalar Site.toBool_placed)

theorem xor_placed : (call.placed placement).xor = call.xor := by
  rw [Call.xor, Call.xor]
  refine congrArg (· >>= _) (mapM_operands_placed scalar fun known => ?_)
  exact congrArg (· >>= _) (Site.toBool_placed known)

theorem ifElse_placed : (call.placed placement).ifElse = call.ifElse := by
  have value : ∀ (type : BranchType) (i : Nat),
      (call.placed placement).branchValue type (call.operand i) =
        call.branchValue type (call.operand i) :=
    fun type i => Site.branchValue_placed (isScalar_operand scalar i) type
  have others : ∀ (type : BranchType),
      (if call.has 2 then some (call.operand 2) else none).mapM
          ((call.placed placement).branchValue type) =
        (if call.has 2 then some (call.operand 2) else none).mapM (call.branchValue type) := by
    intro type
    cases call.has 2 with
    | false => rfl
    | true => exact congrArg (some <$> ·) (value type 2)
  unfold Call.ifElse
  rw [has_placed]
  simp only [truth_placed scalar, operand_placed, branchType_placed, others, value]

theorem switch_placed : (call.placed placement).switch = call.switch := by
  unfold Call.switch
  rw [operands_placed]
  cases given : call.operands with
  | nil => rfl
  | cons subject rest =>
    have known : ∀ operand ∈ subject :: rest, operand.kind.isScalar = true :=
      fun operand member => scalar operand (given ▸ member)
    have first := known subject List.mem_cons_self
    have branches : ∀ type : BranchType,
        ((pairs rest).1.mapM fun pair => do
          return Branch.mk (← (call.placed placement).equal false subject pair.1)
            (← (call.placed placement).branchValue type pair.2)) =
          (pairs rest).1.mapM fun pair => do
            return Branch.mk (← call.equal false subject pair.1)
              (← call.branchValue type pair.2) := by
      intro type
      refine mapM_eq fun pair member => ?_
      obtain ⟨pattern, result⟩ := mem_of_mem_pairs member
      rw [toSite_placed,
        Site.equal_placed first (known _ (List.mem_cons_of_mem _ pattern)),
        Site.branchValue_placed (known _ (List.mem_cons_of_mem _ result))]
    have default : ∀ type : BranchType,
        (pairs rest).2.mapM ((call.placed placement).branchValue type) =
          (pairs rest).2.mapM (call.branchValue type) := by
      intro type
      cases last : (pairs rest).2 with
      | none => rfl
      | some operand =>
        have inside := known _ (List.mem_cons_of_mem _ (mem_of_pairs_default last))
        exact congrArg (some <$> ·) (Site.branchValue_placed inside type)
    simp only [branchType_placed, default]
    exact congrArg (· >>= _) (branches _)

theorem add_placed : (call.placed placement).add = call.add := by
  simp only [Call.add, operand_placed, toSite_placed,
    Site.toTextOrEmpty_placed (isScalar_operand scalar _),
    Site.toNumberOrZero_placed (isScalar_operand scalar _)]

theorem t_placed : (call.placed placement).t = call.t := by
  simp only [Call.t, operand_placed, toSite_placed,
    Site.toText_placed (isScalar_operand scalar _)]

theorem positionOf_placed (fold : Expr → Expr) :
    (call.placed placement).positionOf fold = call.positionOf fold := by
  simp only [Call.positionOf, has_placed, dialect_placed, textOrEmpty_placed scalar,
    position_placed scalar]

theorem substituteAll_placed : (call.placed placement).substituteAll = call.substituteAll := by
  simp only [Call.substituteAll, text_placed scalar, textOrEmpty_placed scalar]

theorem substituteNth_placed (postgres : call.dialect = .postgres) :
    (call.placed placement).substituteNth = call.substituteNth := by
  simp only [Call.substituteNth, occurrence_placed, dialect_placed, postgres,
    textOrEmpty_placed scalar]

theorem arrayJoin_placed : (call.placed placement).arrayJoin = call.arrayJoin := by
  have known := isScalar_operand scalar 0
  simp only [Call.arrayJoin, operand_placed, has_placed, textOrEmpty_placed scalar]
  cases kind : (call.operand 0).kind with
  | json =>
    rw [kind] at known
    cases known
  | _ => simp only [toSite_placed, Site.toText_placed known]

theorem parseSqlite_placed (format : String) :
    (call.placed placement).parseSqlite format = call.parseSqlite format := by
  simp only [Call.parseSqlite, text_placed scalar, operand_placed, clock_placed]

theorem datetimeParse_placed (stable : call.dialect = .postgres → call.has 1 = false) :
    (call.placed placement).datetimeParse = call.datetimeParse := by
  simp only [Call.datetimeParse, has_placed, textLiteral_placed, dialect_placed,
    parseSqlite_placed scalar]
  cases named : call.dialect with
  | postgres =>
    rw [stable named, if_neg Bool.false_ne_true, if_neg Bool.false_ne_true]
    rfl
  | sqlite => rfl

section

variable (stable : call.operation.seesPlacement call.dialect call.args.length = false)

include stable

theorem own?_placed : (call.placed placement).own? = call.own? := by
  unfold own?
  rw [operation_placed, has_placed, dialect_placed]
  cases named : call.operation with
  | max => simp only [Call.max, dialect_placed, numbers_placed scalar]
  | min => simp only [Call.min, dialect_placed, numbers_placed scalar]
  | round => simp only [Call.round, dialect_placed, number_placed scalar, places_placed scalar]
  | roundUp => simp only [Call.roundUp, dialect_placed, number_placed scalar, places_placed scalar]
  | roundDown =>
    simp only [Call.roundDown, dialect_placed, number_placed scalar, places_placed scalar]
  | mod | modulo => simp only [Call.modulo, dialect_placed, numberOrZero_placed scalar]
  | right => simp only [Call.right, dialect_placed, text_placed scalar, lengthOrOne_placed scalar]
  | substitute =>
    cases given : call.has 3 with
    | false => rw [if_neg Bool.false_ne_true, if_neg Bool.false_ne_true]
    | true =>
      have postgres : call.dialect = .postgres := by
        rw [named, Operation.seesPlacement] at stable
        rw [Call.has] at given
        rw [given, Bool.and_true] at stable
        cases target : call.dialect with
        | postgres => rfl
        | sqlite =>
          rw [target] at stable
          cases stable
      exact congrArg some (substituteNth_placed scalar postgres)
  | rept => simp only [Call.rept, dialect_placed, textOrEmpty_placed scalar, length_placed scalar]
  | regexpReplace =>
    cases target : call.dialect with
    | postgres =>
      simp only [Call.regexpReplace, textLiteral_placed, textOrEmpty_placed scalar]
    | sqlite => rfl
  | workday =>
    simp only [Call.workday, has_placed, fault_placed, moment_placed, dialect_placed,
      workdays_placed scalar]
  | dateAdd =>
    simp only [Call.dateAdd, textLiteral_placed, moment_placed, dialect_placed,
      numberOrZero_placed scalar]
  | datetimeParse =>
    refine congrArg some (datetimeParse_placed scalar fun postgres => ?_)
    rw [named, Operation.seesPlacement, postgres] at stable
    exact stable
  | now | today | fromNow | toNow | error | arrayUnique | arrayFlatten | arrayCompact
  | encodeUrl =>
    rw [named] at stable
    cases stable
  | _ => rfl

theorem shared_placed (missing : call.own? = none) :
    (call.placed placement).shared = call.shared := by
  unfold own? at missing
  unfold shared
  rw [operation_placed, has_placed]
  cases named : call.operation with
  | sum => exact sum_placed scalar
  | average => exact average_placed scalar
  | ceiling => simp only [Call.ceiling, number_placed scalar, numberOr_placed scalar]
  | floor => simp only [Call.floor, number_placed scalar, numberOr_placed scalar]
  | even => simp only [Call.even, number_placed scalar]
  | odd => simp only [Call.odd, number_placed scalar]
  | int => simp only [Call.int, number_placed scalar]
  | abs => simp only [Call.abs, number_placed scalar]
  | sqrt => simp only [Call.sqrt, number_placed scalar]
  | power => simp only [Call.power, number_placed scalar]
  | exp => simp only [Call.exp, number_placed scalar]
  | log => simp only [Call.log, number_placed scalar, numberOr_placed scalar]
  | value | castToNumber => exact number_placed scalar 0
  | concatenate | concat => exact concatenate_placed scalar
  | find => exact positionOf_placed scalar id
  | search => simp only [Call.search, positionOf_placed scalar]
  | mid =>
    simp only [Call.mid, text_placed scalar, position_placed scalar, length_placed scalar]
  | left => simp only [Call.left, text_placed scalar, lengthOrOne_placed scalar]
  | replace =>
    simp only [Call.replace, textOrEmpty_placed scalar, position_placed scalar,
      length_placed scalar]
  | substitute =>
    cases given : call.has 3 with
    | false => exact substituteAll_placed scalar
    | true =>
      rw [named, given] at missing
      cases missing
  | lower | upper | trim => simp only [Call.textFunction, text_placed scalar]
  | len => simp only [Call.len, textOrEmpty_placed scalar]
  | t => exact t_placed scalar
  | textAll | castToString => exact text_placed scalar 0
  | ifElse => exact ifElse_placed scalar
  | switch => exact switch_placed scalar
  | and | logicalAnd | or | logicalOr => exact logical_placed scalar _
  | xor => exact xor_placed scalar
  | not => simp only [Call.not, truth_placed scalar]
  | castToBoolean => exact truth_placed scalar 0
  | countA => exact countA_placed scalar
  | count => exact count_placed scalar
  | arrayJoin => exact arrayJoin_placed scalar
  | add => exact add_placed scalar
  | subtract | multiply => simp only [Call.arithmetic, numberOrZero_placed scalar]
  | divide => simp only [Call.divide, numberOrZero_placed scalar]
  | unaryMinus => simp only [Call.unaryMinus, numberOrZero_placed scalar]
  | equal | notEqual =>
    exact Site.equal_placed (isScalar_operand scalar 0) (isScalar_operand scalar 1) _
  | greaterThan | greaterThanOrEqual | lessThan | lessThanOrEqual =>
    exact Site.compare_placed (isScalar_operand scalar 0) (isScalar_operand scalar 1) _
  | blank | error | isError | castToDate | countAll => rfl
  | now | today | createdTime | lastModifiedTime | recordId | autoNumber | encodeUrl =>
    rw [named] at stable
    cases stable
  | regexpReplace =>
    rw [named] at missing stable
    cases target : call.dialect with
    | postgres =>
      rw [target] at missing
      cases missing
    | sqlite =>
      rw [target] at stable
      cases stable
  | _ =>
    rw [named] at missing
    cases missing

theorem compile_placed : (call.placed placement).compile = call.compile := by
  unfold compile
  rw [own?_placed scalar stable]
  cases found : call.own? with
  | none => exact shared_placed scalar stable found
  | some result => rfl

end

end

end Call

/--
A generated column has the same text as a select, or fails with the same error, unless an operand is
JSON or of unknown kind or the operation looks at the place. A name of no operation is refused in
both places, and the error tells where.
-/
theorem render_generated_eq_select (dialect : Dialect) (job : Job) (name : String)
    (args : List String) (hints : List Hint)
    (scalar : ∀ operand ∈ args.mapIdx fun i sql => Operand.classify job sql hints[i]?,
      operand.kind ≠ .json ∧ operand.kind ≠ .unknown) :
    (∀ operation, Operation.ofName? name = some operation →
      operation.seesPlacement dialect args.length = false →
      Target.render ⟨dialect, .generated⟩ job name args hints =
        Target.render ⟨dialect, .select⟩ job name args hints) ∧
    (Operation.ofName? name = none → ∀ placement,
      Target.render ⟨dialect, placement⟩ job name args hints =
        .error (.unsupported name ⟨dialect, placement⟩)) := by
  constructor
  · intro operation named stable
    let call : Call := { job, target := ⟨dialect, .select⟩, operation, args, hints }
    have known : call.IsScalar := by
      intro operand member
      obtain ⟨single, typed⟩ := scalar operand member
      cases kind : operand.kind with
      | json => exact absurd kind single
      | unknown => exact absurd kind typed
      | _ => rfl
    have compiled : (call.placed .generated).compile = call.compile :=
      Call.compile_placed known stable
    unfold Target.render
    rw [named]
    exact congrArg
      (fun result => Target.check operation args hints >>= fun _ => result >>= fun e =>
        Except.ok (e.print dialect))
      compiled
  · intro unnamed placement
    rw [Target.render, unnamed]

def orderJob : Job :=
  { Job.ofCatalog
      (.ofFields [.ofStorage "fld1" "amount" .real, .ofStorage "fld2" "paid" .boolean]) ⟨0, 0⟩ with
    tableAlias := some "t" }

def orderArgs : List String := ["\"t\".\"amount\"", "(null)", "\"paid\"", "'open'"]

theorem render_generated_eq_select_order :
    Operation.ofName? "SWITCH" = some .switch ∧
      (∀ operand ∈ orderArgs.mapIdx fun i sql => Operand.classify orderJob sql ([] : List Hint)[i]?,
        operand.kind ≠ .json ∧ operand.kind ≠ .unknown) ∧
      Operation.seesPlacement .postgres orderArgs.length .switch = false ∧
      Target.render ⟨.postgres, .generated⟩ orderJob "SWITCH" orderArgs [] =
        Target.render ⟨.postgres, .select⟩ orderJob "SWITCH" orderArgs [] := by
  have named : Operation.ofName? "SWITCH" = some .switch := by decide
  have scalar : ∀ operand ∈ orderArgs.mapIdx fun i sql =>
      Operand.classify orderJob sql ([] : List Hint)[i]?,
      operand.kind ≠ .json ∧ operand.kind ≠ .unknown := by decide
  exact ⟨named, scalar, rfl,
    (render_generated_eq_select _ _ _ _ _ scalar).1 .switch named rfl⟩

end SheetSql
