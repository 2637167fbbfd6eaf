import SheetSql.Proofs.Lexical.Render
import SheetSql.Proofs.Meaning.Division
import SheetSql.Proofs.Moment.ParseIso
import SheetSql.Proofs.Typing.Static

namespace SheetSql

/-! The types of coerced operands on Postgres. -/

open Coerce SheetSql.Expr

section

variable {types : String → PgType} {scope : String → Option PgType} {e : Expr} {a : PgType}

theorem hasType_regexMatch (regex : Regex) (typed : e.HasType types scope .text) :
    (regexMatch e regex).HasType types scope .boolean :=
  .binary typed (.text _) rfl

theorem hasType_jsonbType (typed : e.HasType types scope .jsonb) :
    (jsonbType e).HasType types scope .text :=
  .call (.cons typed .nil) rfl

theorem hasType_jsonbMember (name : String) (typed : e.HasType types scope .jsonb) :
    (jsonbMember e name).HasType types scope .text :=
  .binary typed (.text _) rfl

theorem hasType_jsonbText (typed : e.HasType types scope .jsonb) :
    (jsonbText e).HasType types scope .text :=
  .binary typed (.text _) rfl

theorem hasType_asArray (typed : e.HasType types scope a) :
    (asArray e).HasType types scope .jsonb := by
  have json : (e.cast .jsonb).HasType types scope .jsonb := .cast .jsonb typed
  have wrapped : HasType types scope (.call "jsonb_build_array" [e.cast .jsonb]) .jsonb :=
    .call (.cons json .nil) rfl
  have isArray : HasType types scope ((jsonbType (e.cast .jsonb)).eq (.text "array")) .boolean :=
    .binary (hasType_jsonbType json) (.text _) rfl
  exact .ite isArray json wrapped rfl

theorem hasType_title {last : Expr} (typed : e.HasType types scope .jsonb)
    (text : last.HasType types scope .text) :
    (Expr.coalesce [jsonbMember e "title", jsonbMember e "name", last]).HasType types scope
      .text :=
  .call (.cons (hasType_jsonbMember _ typed)
    (.cons (hasType_jsonbMember _ typed) (.cons text .nil))) rfl

theorem hasType_elementText (typed : e.HasType types scope .jsonb) :
    (elementText e).HasType types scope .text := by
  have isObject : HasType types scope ((jsonbType e).eq (.text "object")) .boolean :=
    .binary (hasType_jsonbType typed) (.text _) rfl
  exact .ite isObject (hasType_title typed (.cast .text typed)) (hasType_jsonbText typed) rfl

theorem hasType_jsonNumber (typed : e.HasType types scope a) :
    (jsonNumber .postgres "SUM" e).HasType types scope .double := by
  refine .subquery (.cons (hasType_asArray typed) .nil) rfl ?_ ?_
  · exact hasType_regexMatch _ (.column rfl)
  · exact .call (.cons (.cast .double (.column rfl)) .nil) rfl

theorem hasType_jsonJoin (separator : String) (typed : e.HasType types scope a) :
    (jsonJoin .postgres (.text separator) e).HasType types scope .text := by
  refine .subquery (.cons (hasType_asArray typed) .nil) rfl ?_ ?_
  · exact .binary (hasType_jsonbType (.column rfl)) (.text _) rfl
  · exact .aggregate
      (.cons (hasType_elementText (.column rfl)) (.cons (.cast .text (.text _)) .nil))
      (.cons (.column rfl) .nil) rfl

theorem hasType_jsonText (typed : e.HasType types scope a) :
    (jsonText .postgres e).HasType types scope .text := by
  have json : (e.cast .jsonb).HasType types scope .jsonb := .cast .jsonb typed
  have plain := hasType_jsonbText json
  exact .caseOf (hasType_jsonbType json) plain
    (branchesType_cons (.text _) (hasType_title json plain)
      (branchesType_cons (.text _) .null rfl rfl) rfl)

theorem hasType_jsonTruth (typed : e.HasType types scope a) :
    (jsonTruth e).HasType types scope .boolean :=
  .binary (.nullTest true typed)
    (.memberTexts ["null", "[]", "\x7b\x7d", "", "\"\""] true (.cast .text typed)) rfl

theorem hasType_looseNumber (typed : e.HasType types scope a) :
    (looseNumber .postgres e).HasType types scope .double := by
  have text : (e.cast .text).HasType types scope .text := .cast .text typed
  have bare : HasType types scope
      (.call "REGEXP_REPLACE" [e.cast .text, .text decoration.text, .text "", .text "g"]) .text :=
    .call (.cons text (.cons (.text _) (.cons (.text _) (.cons (.text _) .nil)))) rfl
  exact .caseWhen rfl
    (branchesType_cons (hasType_regexMatch _ text) .null
      (branchesType_cons (hasType_regexMatch _ text) (.cast .double text)
        (branchesType_cons (hasType_regexMatch _ bare) (.cast .double bare) rfl rfl) rfl) rfl)

theorem hasType_truthNumber (typed : e.HasType types scope .boolean) :
    (Expr.caseWhen [⟨e, .number "1.0"⟩, ⟨e.not, .number "0.0"⟩] none).HasType types scope
      .numeric :=
  .caseWhen rfl
    (branchesType_cons typed (.number _) (branchesType_cons typed.not (.number _) rfl rfl) rfl)

theorem hasType_truthText (typed : e.HasType types scope .boolean) :
    (Expr.caseWhen [⟨e, .text "true"⟩, ⟨e.not, .text "false"⟩] none).HasType types scope .text :=
  .caseWhen rfl
    (branchesType_cons typed (.text _) (branchesType_cons typed.not (.text _) rfl rfl) rfl)

theorem hasType_isNotIn (words : List String) (typed : e.HasType types scope .text) :
    HasType types scope
      (.member (.call "LOWER" [e.orElse (.text "")]) (words.map .text) true) .boolean := by
  have lower : HasType types scope (.call "LOWER" [e.orElse (.text "")]) .text :=
    .call (.cons (.orElse typed (.text _) rfl) .nil) rfl
  exact .memberTexts words true lower

theorem hasType_unknownTruth {target : Target} (postgres : target.dialect = .postgres)
    (typed : e.HasType types scope a) :
    (unknownTruth target e).HasType types scope .boolean := by
  obtain ⟨dialect, placement⟩ := target
  cases postgres
  have text : (e.cast .text).HasType types scope .text := .cast .text typed
  cases placement with
  | select =>
    have lower : HasType types scope (.call "LOWER" [(e.cast .text).orElse (.text "")]) .text :=
      .call (.cons (.orElse text (.text _) rfl) .nil) rfl
    have type : HasType types scope ((Expr.call "pg_typeof" [e]).cast .text) .text :=
      .cast .text (.call (.cons typed .nil) rfl)
    have last : HasType types scope
        (.member (.call "LOWER" [(e.cast .text).orElse (.text "")]) [.text "", .text "null"] true)
        .boolean := .memberTexts ["", "null"] true lower
    exact .caseWhen last
      (branchesType_cons (.nullTest false typed) (.bool false)
        (branchesType_cons (.binary type (.text _) rfl) (.binary lower (.text _) rfl)
          (branchesType_cons (.memberTexts numberTypes false type)
            (hasType_regexMatch _ lower).not rfl rfl) rfl) rfl)
  | generated => exact hasType_isNotIn _ text

section

variable (typed : e.HasType types scope a)

include typed

theorem hasType_isoGroup (group : Format.IsoGroup) :
    (isoGroup e group).HasType types scope .text := by
  have index : HasType types scope (.int group.index) .integer := by
    cases group <;> exact .number _
  exact .subscript (.call (.cons (.cast .text typed) (.cons (.text _) .nil)) rfl) index rfl

theorem hasType_isoInt (group : Format.IsoGroup) :
    (isoInt e group).HasType types scope .integer :=
  .cast .integer (hasType_isoGroup typed group)

theorem hasType_isoIntOrZero (group : Format.IsoGroup) :
    (isoIntOrZero e group).HasType types scope .integer :=
  .orElse (hasType_isoInt typed group) (.number "0") rfl

theorem hasType_isoDoubleOrZero (group : Format.IsoGroup) :
    (isoDoubleOrZero e group).HasType types scope .double :=
  .orElse (.cast .double (hasType_isoGroup typed group)) (.number "0") rfl

theorem hasType_isoWall :
    HasType types scope (.call "make_timestamp" (isoWallArgs e)) .timestamp := by
  have second : HasType types scope
      (isoDoubleOrZero e .second + isoDoubleOrZero e .fraction) .double :=
    .binary (hasType_isoDoubleOrZero typed _) (hasType_isoDoubleOrZero typed _) rfl
  exact .call
    (.cons (hasType_isoInt typed _) (.cons (hasType_isoInt typed _)
      (.cons (hasType_isoInt typed _) (.cons (hasType_isoIntOrZero typed _)
        (.cons (hasType_isoIntOrZero typed _) (.cons second .nil)))))) rfl

theorem hasType_isoShift : (isoShift e).HasType types scope .integer := by
  have sign : (isoSign e).HasType types scope .integer :=
    .ite (.binary (hasType_isoGroup typed _) (.text _) rfl) (.number "-1") (.number "1") rfl
  have hours : HasType types scope (isoIntOrZero e .offsetHours * 60) .integer :=
    .binary (hasType_isoIntOrZero typed _) (.number "60") rfl
  exact .binary sign (.binary hours (hasType_isoIntOrZero typed _) rfl) rfl

theorem hasType_isoMoment (clock : WallClock) :
    (isoMoment clock e).HasType types scope .timestampTz := by
  have zero : HasType types scope 0 .integer := .number "0"
  have shift : HasType types scope (interval [0, 0, 0, 0, 0, isoShift e]) .interval :=
    .call (.cons zero (.cons zero (.cons zero (.cons zero (.cons zero
      (.cons (hasType_isoShift typed) .nil)))))) rfl
  have zone : (isoZone clock e).HasType types scope .text :=
    .ite (.nullTest false (hasType_isoGroup typed _)) (.text _) (.text _) rfl
  exact .atTimeZone (.binary (hasType_isoWall typed) shift rfl) zone rfl

theorem hasType_isoLastDay :
    (lastDay (isoInt e .year) (isoInt e .month)).HasType types scope .numeric := by
  have zero : HasType types scope 0 .integer := .number "0"
  have one : HasType types scope 1 .integer := .number "1"
  have first : HasType types scope (.call "make_date" [isoInt e .year, isoInt e .month, 1]) .date :=
    .call (.cons (hasType_isoInt typed _) (.cons (hasType_isoInt typed _) (.cons one .nil))) rfl
  have month : HasType types scope (interval [0, 1]) .interval :=
    .call (.cons zero (.cons one .nil)) rfl
  have day : HasType types scope (interval [0, 0, 0, 1]) .interval :=
    .call (.cons zero (.cons zero (.cons zero (.cons one .nil)))) rfl
  exact .extract _ (.binary (.binary first month rfl) day rfl) rfl

theorem hasType_parseIso (clock : WallClock) :
    (parseIso .postgres clock e).HasType types scope .timestampTz := by
  rw [parseIso_eq]
  have isDay := Expr.HasType.binary (hasType_isoInt typed .day) (hasType_isoLastDay typed)
    (show PgType.ofBinary .le .integer .numeric = some .boolean from rfl)
  have inMonth : (isoInMonth clock e).HasType types scope .timestampTz :=
    .caseWhen rfl
      (branchesType_cons (.binary (hasType_isoInt typed _) (.number "0") rfl) .null
        (branchesType_cons isDay (hasType_isoMoment typed clock) rfl rfl) rfl)
  exact .caseWhen rfl
    (branchesType_cons (hasType_regexMatch _ (.cast .text typed)) inMonth rfl rfl)

end

theorem hasType_datetimeText (typed : e.HasType types scope .timestampTz) :
    (datetimeText .postgres e).HasType types scope .text :=
  .call (.cons (.atTimeZone typed (.text _) rfl) (.cons (.text _) .nil)) rfl

end

structure Operand.Typed (types : String → PgType) (operand : Operand) : Prop where
  text : operand.kind = .text → types operand.sql = .text
  datetime : operand.kind = .datetime → types operand.sql = .timestampTz
  boolean : operand.kind = .boolean → types operand.sql = .boolean

def BranchType.admits : BranchType → PgType → Bool
  | .datetime, type => type == .timestampTz
  | .number, type => type == .double || type == .numeric
  | .boolean, type => type == .boolean
  | .text, type => type == .text

/-- A null or an empty text, which have no type of their own. -/
def Expr.isOpenLiteral : Expr → Bool
  | .null => true
  | .fragment sql => literalKind? sql == some .blank
  | _ => false

def BranchType.Takes (types : String → PgType) (type : BranchType) (value : Expr) : Prop :=
  value.isOpenLiteral = true ∨
    ∃ a, value.HasType types (fun _ => none) a ∧ type.admits a = true

section

variable {types : String → PgType} {site : Site} {operand : Operand} {e : Expr}
  (postgres : site.target.dialect = .postgres) (typed : operand.Typed types)

include postgres typed

theorem takes_toNumber (filled : operand.kind ≠ .blank) (found : site.toNumber operand = .ok e) :
    BranchType.number.Takes types e := by
  have shown : operand.expr.HasType types (fun _ => none) (types operand.sql) := .fragment _
  unfold Site.toNumber at found
  rw [postgres] at found
  cases kind : operand.kind with
  | blank => exact absurd kind filled
  | number =>
    rw [kind] at found
    cases found
    exact .inr ⟨_, .cast .double shown, rfl⟩
  | boolean =>
    rw [kind] at found
    cases found
    rw [typed.boolean kind] at shown
    exact .inr ⟨_, hasType_truthNumber shown, rfl⟩
  | json =>
    rw [kind] at found
    obtain ⟨_, _, found⟩ := bind_eq_ok found
    cases found
    exact .inr ⟨_, hasType_jsonNumber shown, rfl⟩
  | text | datetime | unknown =>
    rw [kind] at found
    cases found
    exact .inr ⟨_, hasType_looseNumber shown, rfl⟩

theorem takes_toText (blank : operand.kind = .blank → literalKind? operand.sql = some .blank)
    (found : site.toText operand = .ok e) : BranchType.text.Takes types e := by
  have shown : operand.expr.HasType types (fun _ => none) (types operand.sql) := .fragment _
  unfold Site.toText at found
  rw [postgres] at found
  cases kind : operand.kind with
  | blank =>
    rw [kind] at found
    cases found
    exact .inl (beq_iff_eq.2 (blank kind))
  | text =>
    rw [kind] at found
    cases found
    rw [typed.text kind] at shown
    exact .inr ⟨_, shown, rfl⟩
  | json =>
    rw [kind] at found
    dsimp only at found
    split at found
    · cases found
      exact .inr ⟨_, hasType_jsonJoin _ shown, rfl⟩
    · split at found
      · cases found
      · cases found
        exact .inr ⟨_, hasType_jsonText shown, rfl⟩
  | boolean =>
    rw [kind] at found
    cases found
    rw [typed.boolean kind] at shown
    exact .inr ⟨_, hasType_truthText shown, rfl⟩
  | number =>
    rw [kind] at found
    dsimp only at found
    split at found
    · cases found
      exact .inr ⟨_, .text _, rfl⟩
    · cases found
      exact .inr ⟨_, .cast .text shown, rfl⟩
  | datetime =>
    rw [kind] at found
    cases found
    rw [typed.datetime kind] at shown
    exact .inr ⟨_, hasType_datetimeText shown, rfl⟩
  | unknown =>
    rw [kind] at found
    cases found
    exact .inr ⟨_, .cast .text shown, rfl⟩

theorem takes_toDatetime : BranchType.datetime.Takes types (site.toDatetime operand) := by
  have shown : operand.expr.HasType types (fun _ => none) (types operand.sql) := .fragment _
  unfold Site.toDatetime
  rw [postgres]
  cases kind : operand.kind with
  | blank | number | boolean => exact .inl rfl
  | datetime =>
    rw [typed.datetime kind] at shown
    exact .inr ⟨_, shown, rfl⟩
  | json => exact .inr ⟨_, hasType_parseIso (hasType_jsonText shown) _, rfl⟩
  | text | unknown => exact .inr ⟨_, hasType_parseIso shown _, rfl⟩

theorem takes_toBool (found : site.toBool operand = .ok e) : BranchType.boolean.Takes types e := by
  have shown : operand.expr.HasType types (fun _ => none) (types operand.sql) := .fragment _
  unfold Site.toBool at found
  rw [postgres] at found
  cases kind : operand.kind with
  | blank =>
    rw [kind] at found
    cases found
    exact .inr ⟨_, .bool false, rfl⟩
  | boolean =>
    rw [kind] at found
    cases found
    rw [typed.boolean kind] at shown
    exact .inr ⟨_, .orElse shown (.bool false) rfl, rfl⟩
  | json =>
    rw [kind] at found
    cases found
    exact .inr ⟨_, hasType_jsonTruth shown, rfl⟩
  | number =>
    rw [kind] at found
    unfold Site.toNumberOrZero Site.toNumber at found
    rw [kind] at found
    cases found
    exact .inr ⟨_, .binary (.orElse (.cast .double shown) (.number "0") rfl) (.number "0") rfl,
      rfl⟩
  | text =>
    rw [kind] at found
    cases found
    rw [typed.text kind] at shown
    exact .inr ⟨_, hasType_isNotIn ["", "null"] shown, rfl⟩
  | datetime =>
    rw [kind] at found
    cases found
    exact .inr ⟨_, .nullTest true shown, rfl⟩
  | unknown =>
    rw [kind] at found
    cases found
    exact .inr ⟨_, hasType_unknownTruth postgres shown, rfl⟩

theorem takes_branchValue (type : BranchType)
    (blank : operand.kind = .blank → literalKind? operand.sql = some .blank)
    (found : site.branchValue type operand = .ok e) : type.Takes types e := by
  unfold Site.branchValue at found
  cases type with
  | text => exact takes_toText postgres typed blank found
  | datetime =>
    cases found
    split
    · exact .inl rfl
    · exact takes_toDatetime postgres typed
  | number =>
    dsimp only at found
    split at found
    next =>
      cases found
      exact .inl rfl
    next filled =>
      have filled : operand.kind ≠ .blank := fun kind => filled (beq_iff_eq.2 kind)
      exact takes_toNumber postgres typed filled found
  | boolean =>
    dsimp only at found
    split at found
    next =>
      cases found
      exact .inl rfl
    next kind =>
      cases found
      refine .inr ⟨_, .fragment _, ?_⟩
      rw [typed.boolean kind]
      rfl
    next => exact takes_toBool postgres typed found

end

namespace Call

def results (call : Call) : List Operand :=
  if call.operation = .switch then
    (pairs (call.operands.drop 1)).1.map (·.2) ++ (pairs (call.operands.drop 1)).2.toList
  else call.operands.drop 1

variable {call : Call} {e : Expr}

theorem forall₂_of_mapM {ε α β : Type} {f : α → Except ε β} {as : List α} {bs : List β}
    (found : as.mapM f = .ok bs) : List.Forall₂ (fun a b => f a = .ok b) as bs := by
  induction as generalizing bs with
  | nil =>
    cases found
    exact .nil
  | cons first rest ih =>
    rw [List.mapM_cons] at found
    obtain ⟨b, one, found⟩ := bind_eq_ok found
    obtain ⟨more, each, found⟩ := bind_eq_ok found
    cases found
    exact .cons one (ih each)

theorem forall₂_of_optionMapM {f : Operand → Except Error Expr} {operand : Option Operand}
    {value : Option Expr} (found : operand.mapM f = .ok value) :
    List.Forall₂ (fun operand value => f operand = .ok value) operand.toList value.toList := by
  cases operand with
  | none =>
    cases found
    exact .nil
  | some operand =>
    obtain ⟨b, one, found⟩ := bind_eq_ok found
    cases found
    exact .cons one .nil

theorem exists_of_mem_right {α β : Type} {r : α → β → Prop} {as : List α} {bs : List β}
    (each : List.Forall₂ r as bs) {b : β} (member : b ∈ bs) : ∃ a ∈ as, r a b := by
  induction each with
  | nil => cases member
  | cons first _ ih =>
    cases member with
    | head => exact ⟨_, List.mem_cons_self, first⟩
    | tail _ later =>
      obtain ⟨a, among, related⟩ := ih later
      exact ⟨a, List.mem_cons_of_mem _ among, related⟩

/-- The values of the results, each at the type that all of them get. -/
def Yields (call : Call) (values : List Expr) : Prop :=
  List.Forall₂
    (fun operand value => call.branchValue (call.branchType call.results) operand = .ok value)
    call.results values

theorem operands_drop_one (two : 1 < call.args.length) (three : call.args.length ≤ 3) :
    call.operands.drop 1 =
      call.operand 1 :: (if call.has 2 then some (call.operand 2) else none).toList := by
  have count : call.operands.length = call.args.length := List.length_mapIdx
  have at? : ∀ i, i < call.args.length → call.operands[i]? = some (call.operand i) := by
    intro i given
    rw [operands, List.getElem?_mapIdx, operand, sqlAt, List.getElem?_eq_getElem given]
    rfl
  apply List.ext_getElem?
  intro i
  rw [List.getElem?_drop, Nat.add_comm]
  cases i with
  | zero => rw [at? 1 two, List.getElem?_cons_zero]
  | succ i =>
    rw [List.getElem?_cons_succ]
    by_cases more : 2 < call.args.length
    · have has : call.has 2 = true := decide_eq_true more
      rw [has, if_pos rfl]
      cases i with
      | zero => rw [at? 2 more]; rfl
      | succ i => rw [List.getElem?_eq_none (by omega)]; rfl
    · have has : call.has 2 = false := decide_eq_false more
      rw [has, if_neg Bool.false_ne_true, List.getElem?_eq_none (by omega)]
      rfl

theorem yields_ifElse (operation : call.operation = .ifElse) (two : 1 < call.args.length)
    (three : call.args.length ≤ 3) (found : call.ifElse = .ok e) :
    ∃ branches otherwise, e = .caseWhen branches otherwise ∧
      call.Yields (branches.map Branch.value ++ otherwise.toList) := by
  have results : call.results =
      call.operand 1 :: (if call.has 2 then some (call.operand 2) else none).toList := by
    rw [Call.results, operation, if_neg nofun, operands_drop_one two three]
  unfold ifElse at found
  obtain ⟨condition, _, found⟩ := bind_eq_ok found
  obtain ⟨otherwise, last, found⟩ := bind_eq_ok found
  obtain ⟨value, first, found⟩ := bind_eq_ok found
  cases found
  refine ⟨[⟨condition, value⟩], otherwise, rfl, ?_⟩
  rw [Yields, results]
  exact .cons first (forall₂_of_optionMapM last)

theorem yields_switch (operation : call.operation = .switch) (found : call.switch = .ok e) :
    ∃ branches otherwise, e = .caseWhen branches otherwise ∧
      call.Yields (branches.map Branch.value ++ otherwise.toList) := by
  unfold switch at found
  cases given : call.operands with
  | nil =>
    rw [given] at found
    cases found
  | cons subject rest =>
    have results : call.results = (pairs rest).1.map (·.2) ++ (pairs rest).2.toList := by
      rw [Call.results, if_pos operation, given]
      rfl
    rw [given] at found
    obtain ⟨branches, each, found⟩ := bind_eq_ok found
    obtain ⟨otherwise, last, found⟩ := bind_eq_ok found
    cases found
    refine ⟨branches, otherwise, rfl, ?_⟩
    rw [Yields, results]
    refine List.rel_append ?_ (forall₂_of_optionMapM last)
    rw [List.forall₂_map_left_iff, List.forall₂_map_right_iff]
    refine (forall₂_of_mapM each).imp ?_
    intro pair branch made
    obtain ⟨condition, _, made⟩ := bind_eq_ok made
    obtain ⟨value, typed, made⟩ := bind_eq_ok made
    cases made
    exact typed

theorem mem_operands_of_mem_results {operand : Operand} (member : operand ∈ call.results) :
    operand ∈ call.operands := by
  have dropped : operand ∈ call.operands.drop 1 := by
    unfold Call.results at member
    split at member
    · rcases List.mem_append.1 member with chosen | last
      · obtain ⟨pair, among, rfl⟩ := List.mem_map.1 chosen
        exact (mem_of_mem_pairs among).2
      · exact mem_of_pairs_default (Option.mem_toList.1 last)
    · exact member
  exact List.mem_of_mem_drop dropped

end Call

theorem Call.yields_compile {call : Call}
    (conditional : call.operation = .ifElse ∨ call.operation = .switch)
    (checked : Target.check call.operation call.args call.hints = .ok ())
    (compiled : call.compile = .ok e) :
    ∃ branches otherwise, e = .caseWhen branches otherwise ∧
      call.Yields (branches.map Branch.value ++ otherwise.toList) := by
  have accepted := accepts_of_check checked
  unfold Call.compile Call.own? Call.shared at compiled
  rcases conditional with operation | operation
  · rw [operation] at compiled accepted
    obtain ⟨two, three⟩ := Bool.and_eq_true_iff.1 accepted
    exact yields_ifElse operation (of_decide_eq_true two) (of_decide_eq_true three) compiled
  · rw [operation] at compiled
    exact yields_switch operation compiled

theorem Call.Yields.takes {types : String → PgType} {call : Call} {values : List Expr}
    (yields : call.Yields values) (postgres : call.target.dialect = .postgres)
    (typed : ∀ operand ∈ call.operands, operand.Typed types) {value : Expr}
    (member : value ∈ values) : (call.branchType call.results).Takes types value := by
  obtain ⟨operand, chosen, found⟩ := exists_of_mem_right yields member
  have given := mem_operands_of_mem_results chosen
  refine takes_branchValue postgres (typed operand given) _ (fun blank => ?_) found
  obtain ⟨i, _, rfl⟩ := List.mem_mapIdx.1 given
  rw [Operand.classify_sql]
  exact literalKind?_of_blank blank

/--
The values of a conditional on Postgres have one type, which is that of all its branches, or are
null or empty literals without a type.
-/
theorem branches_have_one_type (types : String → PgType) (call : Call) (name sql : String)
    (postgres : call.target.dialect = .postgres)
    (named : Operation.ofName? name = some call.operation)
    (conditional : call.operation = .ifElse ∨ call.operation = .switch)
    (typed : ∀ operand ∈ call.operands, operand.Typed types)
    (rendered : call.target.render call.job name call.args call.hints = .ok sql) :
    ∃ branches otherwise, sql = (Expr.caseWhen branches otherwise).print .postgres ∧
      (branches.map Branch.value ++ otherwise.toList).length = call.results.length ∧
      ∀ value ∈ branches.map Branch.value ++ otherwise.toList,
        (call.branchType call.results).Takes types value := by
  unfold Target.render at rendered
  rw [named] at rendered
  obtain ⟨_, checked, rendered⟩ := bind_eq_ok rendered
  obtain ⟨e, compiled, rendered⟩ := bind_eq_ok rendered
  obtain ⟨branches, otherwise, rfl, yields⟩ := Call.yields_compile conditional checked compiled
  cases rendered
  refine ⟨branches, otherwise, by rw [postgres], yields.length_eq.symm, ?_⟩
  exact fun value member => yields.takes postgres typed member

def dueCall : Call :=
  { job := .ofCatalog (.ofFields [.ofStorage "fld1" "due" .datetime]) ⟨0, 0⟩
    target := ⟨.postgres, .generated⟩
    operation := .switch
    args := ["\"state\"", "1", "\"due\"", "2", "'2024-02-29'", "(null)"]
    hints := [] }

def dueTypes (sql : String) : PgType := if sql = "\"due\"" then .timestampTz else .text

theorem branches_have_one_type_due :
    Operation.ofName? "SWITCH" = some dueCall.operation ∧
      (∀ operand ∈ dueCall.operands, operand.Typed dueTypes) ∧
      dueCall.branchType dueCall.results = .datetime ∧
      ∃ sql, dueCall.target.render dueCall.job "SWITCH" dueCall.args dueCall.hints = .ok sql ∧
        ∃ branches otherwise, sql = (Expr.caseWhen branches otherwise).print .postgres ∧
          (branches.map Branch.value ++ otherwise.toList).length = dueCall.results.length ∧
          ∀ value ∈ branches.map Branch.value ++ otherwise.toList,
            (dueCall.branchType dueCall.results).Takes dueTypes value := by
  have named : Operation.ofName? "SWITCH" = some dueCall.operation := by decide
  have typed : ∀ operand ∈ dueCall.operands, operand.Typed dueTypes := by
    have kinds : ∀ operand ∈ dueCall.operands,
        (operand.kind = .text → dueTypes operand.sql = .text) ∧
          (operand.kind = .datetime → dueTypes operand.sql = .timestampTz) ∧
          (operand.kind = .boolean → dueTypes operand.sql = .boolean) := by decide
    intro operand member
    obtain ⟨text, datetime, boolean⟩ := kinds operand member
    exact ⟨text, datetime, boolean⟩
  obtain ⟨sql, rendered⟩ : ∃ sql,
      dueCall.target.render dueCall.job "SWITCH" dueCall.args dueCall.hints = .ok sql := ⟨_, rfl⟩
  exact ⟨named, typed, by decide, sql, rendered,
    branches_have_one_type dueTypes dueCall "SWITCH" sql rfl named (.inr rfl) typed rendered⟩

end SheetSql
