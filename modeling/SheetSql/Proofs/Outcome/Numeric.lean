import SheetSql.Compile.Array
import SheetSql.Compile.Logic
import SheetSql.Compile.Numeric
import SheetSql.Compile.Rounding
import SheetSql.Proofs.Outcome.Call

namespace SheetSql.Call

/-! Like calls compile to like conditions, numbers and counts that obey the rule of their target. -/

open Coerce

attribute [local simp] Expr.operator_eq

variable {terms : Terms} {call call' : Call}

section

variable {dialect : Dialect} {placement : Placement} {x x' y y' : Expr}
  (first : terms.Sound ⟨dialect, placement⟩ x x') (second : terms.Sound ⟨dialect, placement⟩ y y')

include first

theorem presence_sound : terms.Sound ⟨dialect, placement⟩ (presence x) (presence x') := by
  simp [presence, first]

theorem evenOf_sound : terms.Sound ⟨dialect, placement⟩ (evenOf x) (evenOf x') := by
  simp +decide [evenOf, signOf, first]

theorem oddOf_sound : terms.Sound ⟨dialect, placement⟩ (oddOf x) (oddOf x') := by
  simp +decide [oddOf, signOf, first]

include second

theorem powerOf_sound : terms.Sound ⟨dialect, placement⟩ (powerOf x y) (powerOf x' y') := by
  simp +decide [powerOf, maxExponent, minExponent, first, second]

theorem logOf_sound : terms.Sound ⟨dialect, placement⟩ (logOf x y) (logOf x' y') := by
  simp +decide [logOf, first, second]

theorem multipleOf_sound (name : isFunctionName rounding = true)
    (plain : isPlain rounding = true) :
    terms.Sound ⟨dialect, placement⟩ (multipleOf rounding x y) (multipleOf rounding x' y') := by
  simp +decide [multipleOf, name, node_of_isPlain plain, first, second]

theorem roundOf_sound :
    terms.Sound ⟨dialect, placement⟩ (roundOf dialect x y) (roundOf dialect x' y') := by
  cases dialect <;> simp +decide [roundOf, first, second]

theorem roundMagnitude_sound (name : isFunctionName rounding = true)
    (plain : isPlain rounding = true) :
    terms.Sound ⟨dialect, placement⟩ (roundMagnitude dialect rounding x y)
      (roundMagnitude dialect rounding x' y') := by
  cases dialect <;>
    simp +decide [roundMagnitude, name, node_of_isPlain plain, first, second]

end

section

variable {dialect : Dialect} {placement : Placement}

theorem sequence_sound (op : BinOp) (common : op.isCommon = true) {items items' : List Expr}
    (some : items ≠ []) (each : List.Forall₂ (terms.Sound target) items items') :
    terms.Sound target (.sequence op items) (.sequence op items') := by
  have both := Terms.sound_list each
  exact ⟨sequence_alike op both.1, obeys_sequence common some both.2⟩

/-- The one value of SQLite is not put under a function, which would take it for an aggregate. -/
theorem extremumOf_sound {pick : List Expr → Expr}
    (picks : ∀ {args args'}, AllAlike terms.likeness args args' →
      Expr.Alike terms.likeness (pick args) (pick args'))
    (picked : ∀ {args : List Expr}, 0 < args.length → (dialect = .sqlite → 1 < args.length) →
      (pick args).obeys (.emitted ⟨dialect, placement⟩ terms.stable) =
        allObey (.emitted ⟨dialect, placement⟩ terms.stable) args)
    (each : List.Forall₂ (terms.Sound ⟨dialect, placement⟩) values values') :
    terms.Sound ⟨dialect, placement⟩ (extremumOf dialect pick values)
      (extremumOf dialect pick values') := by
  have both := Terms.sound_list each
  cases each with
  | nil => cases dialect <;> simp [extremumOf]
  | @cons value value' rest rest' head tail =>
    cases dialect with
    | postgres => exact ⟨picks both.1, (picked (by simp) nofun).trans both.2⟩
    | sqlite =>
      cases tail with
      | nil => exact head
      | @cons second second' more more' next tail =>
        -- Every value comes first in a list of all of them.
        have filled : List.Forall₂ (terms.Sound ⟨.sqlite, placement⟩)
            ((value :: second :: more).map fun e =>
              .coalesce (e :: value :: second :: more))
            ((value' :: second' :: more').map fun e =>
              .coalesce (e :: value' :: second' :: more')) := by
          refine List.forall₂_map_left_iff.2 (List.forall₂_map_right_iff.2 ?_)
          refine (List.Forall₂.cons head (.cons next tail)).imp fun e e' sound => ?_
          simpa [sound] using both
        have list := Terms.sound_list filled
        exact ⟨picks list.1, (picked (by simp) (by simp)).trans list.2⟩

end

section

variable (fits : call.Fits terms call')

include fits

theorem mapM_operands_keeps (some : call.args ≠ [])
    (each : ∀ {operand operand' : Operand}, operand ∈ call.operands →
      operand.Fits call.toSite terms operand' →
        call.Keeps terms (value operand) (value' operand')) :
    Agree (fun list list' => list ≠ [] ∧ List.Forall₂ (terms.Sound call.target) list list')
      terms.allows (call.operands.mapM value) (call'.operands.mapM value') := by
  have members := (List.forall₂_and_left _ _).2 ⟨fun _ => id, fits.operands⟩
  refine (Agree.mapM members fun both => each both.1 both.2).imp fun ⟨count, good⟩ => ⟨?_, good⟩
  rw [Call.operands, List.length_mapIdx] at count
  rintro rfl
  exact some (List.eq_nil_of_length_eq_zero count.symm)

theorem sequence_keeps {op : BinOp} (common : op.isCommon = true) (some : call.args ≠ [])
    (each : ∀ {operand operand' : Operand}, operand ∈ call.operands →
      operand.Fits call.toSite terms operand' →
        call.Keeps terms (value operand) (value' operand')) :
    call.Keeps terms (do return .sequence op (← call.operands.mapM value))
      (do return .sequence op (← call'.operands.mapM value')) :=
  (mapM_operands_keeps fits some each).bind fun ⟨items, good⟩ =>
    .ok (sequence_sound op common items good)

theorem arithmetic_keeps {op : BinOp} (common : op.isCommon = true) :
    call.Keeps terms (call.arithmetic op) (call'.arithmetic op) :=
  (numberOrZero_keeps fits 0).bind fun first => (numberOrZero_keeps fits 1).bind fun second =>
    .ok (by simp [common, first, second])

theorem divide_keeps : call.Keeps terms call.divide call'.divide :=
  (numberOrZero_keeps fits 0).bind fun first => (numberOrZero_keeps fits 1).bind fun second =>
    .ok (by simp +decide [first, second])

theorem unaryMinus_keeps : call.Keeps terms call.unaryMinus call'.unaryMinus :=
  (numberOrZero_keeps fits 0).bind fun number => .ok (by simp [number])

theorem modulo_keeps : call.Keeps terms call.modulo call'.modulo := by
  rw [modulo, modulo, dialect_eq fits]
  refine (numberOrZero_keeps fits 0).bind fun first => (numberOrZero_keeps fits 1).bind
    fun second => ?_
  cases dialect : call.dialect with
  | postgres =>
    rw [Site.target_of_dialect dialect] at first second
    refine .ok ?_
    rw [Site.target_of_dialect dialect]
    simp +decide [first, second]
  | sqlite =>
    rw [Site.target_of_dialect dialect] at first second
    refine .ok ?_
    rw [Site.target_of_dialect dialect]
    simp +decide [first, second]

theorem sum_keeps (some : call.args ≠ []) : call.Keeps terms call.sum call'.sum := by
  rw [sum, sum, fits.site]
  exact sequence_keeps fits rfl some fun _ => Site.toNumberOrZero_keeps

theorem numberCount_keeps {operand operand' : Operand}
    (same : operand.Fits call.toSite terms operand') :
    call.Keeps terms (call.numberCount operand) (call'.numberCount operand') := by
  unfold numberCount
  rw [same.kind, dialect_eq fits, fits.site]
  split
  · exact .ok (by simp)
  · exact Site.jsonNumber_keeps same ‹_› (by decide) (by decide)
  · exact (Site.toNumber_keeps same).bind fun number => .ok (presence_sound number)

theorem average_keeps (some : call.args ≠ []) : call.Keeps terms call.average call'.average :=
  (mapM_operands_keeps fits some fun _ => numberCount_keeps fits).bind fun ⟨items, good⟩ =>
    (sum_keeps fits some).bind fun total =>
      .ok (by simp +decide [total, sequence_sound .add rfl items good])

theorem numbers_keeps (name : isFunctionName aggregate = true)
    (known : (isFree aggregate || ["max", "min"].contains (Text.lowered aggregate)) = true) :
    Agree (List.Forall₂ (terms.Sound call.target)) terms.allows (call.numbers aggregate)
      (call'.numbers aggregate) := by
  unfold numbers
  have given := List.rel_filter (p := fun operand : Operand => !operand.isBlank)
    (q := fun operand => !operand.isBlank)
    (fun _ _ same => by dsimp only; rw [same.isBlank]) fits.operands
  refine (Agree.mapM given fun {operand operand'} same => ?_).imp fun both => both.2
  rw [same.kind, dialect_eq fits, fits.site]
  split
  · exact Site.jsonNumber_keeps same ‹_› name known
  · exact Site.toNumber_keeps same

theorem max_keeps : call.Keeps terms call.max call'.max := by
  rw [Call.max, Call.max, dialect_eq fits]
  exact (numbers_keeps fits (by decide) (by decide)).bind fun each =>
    .ok (extremumOf_sound alike_greatest.2 obeys_greatest each)

theorem min_keeps : call.Keeps terms call.min call'.min := by
  rw [Call.min, Call.min, dialect_eq fits]
  exact (numbers_keeps fits (by decide) (by decide)).bind fun each =>
    .ok (extremumOf_sound alike_least.2 obeys_least each)

theorem sqrt_keeps : call.Keeps terms call.sqrt call'.sqrt :=
  (number_keeps fits 0).bind fun number => .ok (by simp +decide [number])

theorem exp_keeps : call.Keeps terms call.exp call'.exp :=
  (number_keeps fits 0).bind fun number =>
    .ok (by simp +decide [number, maxExponent, minExponent])

theorem power_keeps : call.Keeps terms call.power call'.power :=
  (number_keeps fits 0).bind fun first => (number_keeps fits 1).bind fun second =>
    .ok (powerOf_sound first second)

theorem log_keeps : call.Keeps terms call.log call'.log :=
  (number_keeps fits 0).bind fun first => (numberOr_keeps fits 1 (by simp)).bind fun second =>
    .ok (logOf_sound first second)

theorem abs_keeps : call.Keeps terms call.abs call'.abs :=
  (number_keeps fits 0).bind fun number => .ok (by simp +decide [number])

theorem int_keeps : call.Keeps terms call.int call'.int :=
  (number_keeps fits 0).bind fun number => .ok (by simp +decide [number])

theorem ceiling_keeps : call.Keeps terms call.ceiling call'.ceiling :=
  (number_keeps fits 0).bind fun first => (numberOr_keeps fits 1 (by simp)).bind fun second =>
    .ok (multipleOf_sound first second (by decide) (by decide))

theorem floor_keeps : call.Keeps terms call.floor call'.floor :=
  (number_keeps fits 0).bind fun first => (numberOr_keeps fits 1 (by simp)).bind fun second =>
    .ok (multipleOf_sound first second (by decide) (by decide))

theorem even_keeps : call.Keeps terms call.even call'.even :=
  (number_keeps fits 0).bind fun number => .ok (evenOf_sound number)

theorem odd_keeps : call.Keeps terms call.odd call'.odd :=
  (number_keeps fits 0).bind fun number => .ok (oddOf_sound number)

theorem places_keeps : call.Keeps terms call.places call'.places := by
  rw [places, places, has_eq fits, dialect_eq fits]
  split
  · exact (numberOrZero_keeps fits 1).bind fun number => .ok (boundedInt_sound number)
  · exact .ok (by simp)

theorem round_keeps : call.Keeps terms call.round call'.round := by
  rw [round, round, dialect_eq fits]
  exact (number_keeps fits 0).bind fun first => (places_keeps fits).bind fun second =>
    .ok (roundOf_sound first second)

theorem roundUp_keeps : call.Keeps terms call.roundUp call'.roundUp := by
  rw [roundUp, roundUp, dialect_eq fits]
  exact (number_keeps fits 0).bind fun first => (places_keeps fits).bind fun second =>
    .ok (roundMagnitude_sound first second (by decide) (by decide))

theorem roundDown_keeps : call.Keeps terms call.roundDown call'.roundDown := by
  rw [roundDown, roundDown, dialect_eq fits]
  exact (number_keeps fits 0).bind fun first => (places_keeps fits).bind fun second =>
    .ok (roundMagnitude_sound first second (by decide) (by decide))

theorem countAll_sound : terms.Sound call.target call.countAll call'.countAll := by
  have same := operand_fits fits 0
  unfold countAll
  dsimp only
  rw [same.kind, dialect_eq fits]
  split
  · exact jsonLength_sound (same.expr _)
  · simp
  · exact presence_sound (same.expr _)

theorem valueCount_keeps {operand operand' : Operand}
    (same : operand.Fits call.toSite terms operand') :
    call.Keeps terms (call.valueCount operand) (call'.valueCount operand') := by
  have sound := same.expr call.target
  unfold valueCount
  rw [same.kind, dialect_eq fits]
  split
  · exact .ok (by simp)
  · rename_i json
    refine needSubquery_keeps fits (same.many json) fun select queries => .ok ?_
    rw [Site.target_select select]
    exact jsonCount_sound queries (same.expr _)
  · exact .ok (by simp +decide [sound])
  · exact .ok (presence_sound sound)

theorem countA_keeps (some : call.args ≠ []) : call.Keeps terms call.countA call'.countA :=
  sequence_keeps fits rfl some fun _ => valueCount_keeps fits

theorem count_keeps (some : call.args ≠ []) : call.Keeps terms call.count call'.count := by
  refine sequence_keeps fits rfl some fun _ same => ?_
  rw [same.kind]
  split
  · exact .ok (by simp)
  · exact .ok (by simp)
  · exact .ok (by simp)
  · exact numberCount_keeps fits same

theorem logical_keeps {op : BinOp} (common : op.isCommon = true) (some : call.args ≠ []) :
    call.Keeps terms (call.logical op) (call'.logical op) := by
  rw [logical, logical, fits.site]
  exact sequence_keeps fits common some fun _ => Site.toBool_keeps

theorem xor_keeps (some : call.args ≠ []) : call.Keeps terms call.xor call'.xor := by
  rw [Call.xor, Call.xor, fits.site]
  refine (mapM_operands_keeps fits some fun _ same => ?_).bind fun ⟨ones, good⟩ => .ok ?_
  · exact (Site.toBool_keeps same).bind fun truth => .ok (by simp [truth])
  · simp +decide [sequence_sound .add rfl ones good]

theorem not_keeps : call.Keeps terms call.not call'.not :=
  (truth_keeps fits 0).bind fun truth => .ok (by simp [truth])

theorem ifElse_keeps : call.Keeps terms call.ifElse call'.ifElse := by
  have yes := operand_fits fits 1
  have no : Option.Rel (Operand.Fits call.toSite terms)
      (if call.has 2 then some (call.operand 2) else none)
      (if call.has 2 then some (call'.operand 2) else none) := by
    split
    · exact .some (operand_fits fits 2)
    · exact .none
  unfold ifElse
  rw [has_eq fits, fits.site]
  generalize (if call.has 2 = true then some (call.operand 2) else none) = other,
    (if call.has 2 = true then some (call'.operand 2) else none) = other' at no
  have type : call.branchType (call'.operand 1 :: other'.toList) =
      call.branchType (call.operand 1 :: other.toList) := by
    refine Site.branchType_eq (.cons yes.toAlike ?_)
    cases no with
    | none => exact .nil
    | some same => exact .cons same.toAlike .nil
  dsimp only
  rw [type]
  exact (truth_keeps fits 0).bind fun truth =>
    (Site.otherwise_keeps no fun operand member => by simp_all).bind fun otherwise =>
      (Site.branchValue_keeps List.mem_cons_self yes).bind fun value =>
        .ok (by simp [truth, value, Terms.sound_option otherwise])

theorem comparison_keeps {op : BinOp} (common : op.isCommon = true) :
    call.Keeps terms (call.comparison op) (call'.comparison op) := by
  rw [comparison, comparison, fits.site]
  exact Site.compare_keeps (operand_fits fits 0) (operand_fits fits 1) common

theorem equality_keeps (shows : ∀ operand ∈ (call.operand 0).comparedAsText (call.operand 1),
      operand.MayShow call.toSite terms) :
    call.Keeps terms (call.equality negated) (call'.equality negated) := by
  rw [equality, equality, fits.site]
  exact Site.equal_keeps (operand_fits fits 0) (operand_fits fits 1) shows

end

theorem mem_of_mem_pairs {α : Type} {list : List α} {pair : α × α}
    (member : pair ∈ (pairs list).1) : pair.1 ∈ list ∧ pair.2 ∈ list := by
  fun_induction pairs list with
  | case1 => cases member
  | case2 => cases member
  | case3 pattern result rest more default split ih =>
    rw [split] at ih
    rcases List.mem_cons.1 member with rfl | member
    · simp
    · have inside := ih member
      exact ⟨by simp [inside.1], by simp [inside.2]⟩

theorem mem_of_pairs_default {α : Type} {list : List α} {last : α}
    (found : (pairs list).2 = some last) : last ∈ list := by
  fun_induction pairs list with
  | case1 => cases found
  | case2 default =>
    cases found
    simp
  | case3 pattern result rest more default split ih =>
    rw [split] at ih
    simp [ih found]

theorem pairs_ne_nil {α : Type} {list : List α} (enough : 2 ≤ list.length) :
    (pairs list).1 ≠ [] := by
  fun_cases pairs list with
  | case1 => simp at enough
  | case2 => simp at enough
  | case3 => simp

def matchedAsText (call : Call) : List Operand :=
  match call.operands with
  | [] => []
  | subject :: rest => (pairs rest).1.flatMap fun pair => subject.comparedAsText pair.1

def BothRelated {α : Type} (r : α → α → Prop) (one other : α × α) : Prop :=
  r one.1 other.1 ∧ r one.2 other.2

theorem pairs_related {α : Type} {r : α → α → Prop} {list list' : List α}
    (each : List.Forall₂ r list list') :
    List.Forall₂ (BothRelated r) (pairs list).1 (pairs list').1 ∧
      Option.Rel r (pairs list).2 (pairs list').2 := by
  induction list using pairs.induct generalizing list' with
  | case1 =>
    cases each
    exact ⟨.nil, .none⟩
  | case2 default =>
    obtain ⟨_, rfl, same⟩ : ∃ only, list' = [only] ∧ r default only := by
      cases each with
      | cons same tail =>
        cases tail
        exact ⟨_, rfl, same⟩
    exact ⟨.nil, .some same⟩
  | case3 pattern result rest more default found ih =>
    cases each with
    | cons first tail =>
      cases tail with
      | cons second tail =>
        obtain ⟨cases, last⟩ := ih tail
        exact ⟨.cons ⟨first, second⟩ cases, last⟩

theorem results_related {α : Type} {r : α → α → Prop} {cases cases' : List (α × α)}
    {default default' : Option α} (each : List.Forall₂ (BothRelated r) cases cases')
    (last : Option.Rel r default default') :
    List.Forall₂ r (cases.map (·.2) ++ default.toList)
      (cases'.map (·.2) ++ default'.toList) := by
  induction each with
  | nil =>
    cases last with
    | none => exact .nil
    | some same => exact .cons same .nil
  | cons head _ ih => exact .cons head.2 ih

theorem branches_sound
    (each : List.Forall₂ (fun branch branch' : Branch =>
      terms.Sound target branch.condition branch'.condition ∧
        terms.Sound target branch.value branch'.value) branches branches') :
    BranchesAlike terms.likeness branches branches' ∧
      branchesObey (.emitted target terms.stable) branches = true := by
  induction each with
  | nil => exact ⟨.nil, branchesObey_nil⟩
  | @cons branch branch' _ _ head _ ih =>
    cases branch
    cases branch'
    simpa [head.1, head.2] using ih

theorem switch_keeps (fits : call.Fits terms call') (enough : 3 ≤ call.args.length)
    (shows : ∀ operand ∈ call.matchedAsText, operand.MayShow call.toSite terms) :
    call.Keeps terms call.switch call'.switch := by
  have each := fits.operands
  have count : 3 ≤ call.operands.length := by rwa [Call.operands, List.length_mapIdx]
  unfold switch
  unfold matchedAsText at shows
  rw [fault_eq fits, fits.site]
  generalize call.operands = list, call'.operands = list' at each shows count
  cases each with
  | nil => simp at count
  | @cons subject subject' rest rest' first others =>
    obtain ⟨cases, default⟩ := pairs_related others
    have type : call.branchType ((pairs rest').1.map (·.2) ++ (pairs rest').2.toList) =
        call.branchType ((pairs rest).1.map (·.2) ++ (pairs rest).2.toList) :=
      Site.branchType_eq ((results_related cases default).imp fun _ _ same => same.toAlike)
    dsimp only
    rw [type]
    have members := (List.forall₂_and_left _ _).2 ⟨fun _ => id, cases⟩
    refine Agree.bind (Agree.mapM (s := fun branch branch' : Branch =>
        terms.Sound call.target branch.condition branch'.condition ∧
          terms.Sound call.target branch.value branch'.value) members
        fun {pair pair'} both => ?_) fun {branches branches'} good => ?_
    · obtain ⟨member, pattern, result⟩ := both
      refine (Site.equal_keeps first pattern fun operand read => ?_).bind fun test =>
        (Site.branchValue_keeps ?_ result).bind fun value => .ok ⟨test, value⟩
      · exact shows operand (List.mem_flatMap.2 ⟨pair, member, read⟩)
      · exact List.mem_append_left _ (List.mem_map.2 ⟨pair, member, rfl⟩)
    · have some : branches ≠ [] := by
        rintro rfl
        exact pairs_ne_nil (Nat.le_of_succ_le_succ count)
          (List.eq_nil_of_length_eq_zero good.1.symm)
      refine (Site.otherwise_keeps default fun operand member => ?_).bind fun otherwise => .ok ?_
      · exact List.mem_append_right _ (Option.mem_toList.2 member)
      · simp [some, branches_sound good.2, Terms.sound_option otherwise]

end SheetSql.Call
