import SheetSql.Proofs.Outcome.Compile
import SheetSql.Proofs.Lexical.Print
import SheetSql.Render

namespace SheetSql

/-! Formulas as trees, compiled from their leaves up. -/

open Sql

inductive Formula where
  | leaf (value : Leaf)
  | call (name : String) (args : List Formula) (hints : List Hint)
  deriving Repr

mutual

def Formula.render (target : Target) (job : Job) : Formula → Except Error String
  | .leaf value => target.renderLeaf job value
  | .call name args hints => do
      target.render job name (← Formula.renderEach target job args) hints

def Formula.renderEach (target : Target) (job : Job) :
    List Formula → Except Error (List String)
  | [] => .ok []
  | formula :: rest => do
      return (← formula.render target job) :: (← Formula.renderEach target job rest)

end

theorem bind_eq_ok {ε α β : Type} {x : Except ε α} {f : α → Except ε β} {b : β}
    (found : (x >>= f) = .ok b) : ∃ a, x = .ok a ∧ f a = .ok b := by
  cases x with
  | ok a => exact ⟨a, rfl, found⟩
  | error e => cases found

section

variable {target : Target} {job : Job} {p : String → Prop}
  (leaves : ∀ {leaf sql}, target.renderLeaf job leaf = .ok sql → p sql)
  (calls : ∀ {name args hints sql}, (∀ arg ∈ args, p arg) →
    target.render job name args hints = .ok sql → p sql)

include leaves calls

-- Some need it for what they call alone.
set_option linter.unusedSectionVars false in
mutual

theorem Formula.forall_render :
    ∀ (formula : Formula) {sql : String}, formula.render target job = .ok sql → p sql
  | .leaf value, sql, found => by
    rw [Formula.render] at found
    exact leaves found
  | .call name args hints, sql, found => by
    rw [Formula.render] at found
    obtain ⟨texts, each, found⟩ := bind_eq_ok found
    exact calls (Formula.forall_renderEach args each) found

theorem Formula.forall_renderEach :
    ∀ (formulas : List Formula) {texts : List String},
      Formula.renderEach target job formulas = .ok texts → ∀ text ∈ texts, p text
  | [], texts, found => by
    rw [Formula.renderEach] at found
    cases found
    simp
  | formula :: rest, texts, found => by
    rw [Formula.renderEach] at found
    obtain ⟨first, one, found⟩ := bind_eq_ok found
    obtain ⟨more, each, found⟩ := bind_eq_ok found
    cases found
    rw [List.forall_mem_cons]
    exact ⟨Formula.forall_render formula one, Formula.forall_renderEach rest each⟩

end

end

theorem positional_digits (c : Nat) (e : Int) :
    ∀ d ∈ Double.positional c e, (d.isDigit || d == '.') = true := by
  have digits : ∀ d ∈ Nat.toDigits 10 c, (d.isDigit || d == '.') = true :=
    fun _ member => isDigit_of_mem_repr member
  have zeros : ∀ n, ∀ d ∈ List.replicate n '0', (d.isDigit || d == '.') = true := by
    intro n d member
    rw [List.eq_of_mem_replicate member]
    rfl
  have padded : ∀ n, ∀ d ∈ List.replicate n '0' ++ Nat.toDigits 10 c,
      (d.isDigit || d == '.') = true := by
    intro n d member
    rcases List.mem_append.1 member with zero | digit
    · exact zeros n d zero
    · exact digits d digit
  intro d member
  unfold Double.positional at member
  dsimp only at member
  split at member
  · rcases List.mem_append.1 member with digit | zero
    · exact digits d digit
    · exact zeros _ d zero
  · rcases List.mem_append.1 member with whole | rest
    · exact padded _ d (List.mem_of_mem_take whole)
    · rcases List.mem_cons.1 rest with rfl | places
      · rfl
      · exact padded _ d (List.mem_of_mem_drop places)

theorem isNumberText_text_of_isFinite {value : Double} (finite : value.isFinite = true) :
    isNumberText value.text = true := by
  cases value with
  | nan => cases finite
  | infinite negative => cases finite
  | finite negative significand exponent =>
    unfold Double.text
    dsimp only
    generalize shape : (if significand = 0 then ['0']
      else Double.positional _ _) = magnitude
    have digits : ∀ c ∈ magnitude, (c.isDigit || c == '.') = true := by
      rw [← shape]
      split
      · simp
      · exact positional_digits _ _
    cases negative with
    | false => exact (isNumberText_of_digits digits).1
    | true => exact (isNumberText_of_digits digits).2

theorem Target.leaf_alike {l : Likeness} {target : Target} {job : Job} {leaf : Leaf} {e : Expr}
    (found : target.leaf job leaf = .ok e) : Expr.Alike l e e := by
  cases leaf with
  | text content =>
    cases found
    exact .text content
  | number value =>
    cases found
    split
    · exact .number (isNumberText_text_of_isFinite ‹_›)
    · exact .null
  | boolean value =>
    cases found
    exact .bool value
  | null =>
    cases found
    exact .null
  | field id =>
    rw [Target.leaf] at found
    split at found
    · cases found
      exact .column _ _
    · cases found

def Likeness.ofTexts (allowed : String → Prop) (queries : Prop) (null : allowed "NULL") :
    Likeness where
  texts sql sql' := sql = sql' ∧ allowed sql
  queries := queries
  bare_eq := by
    rintro sql sql' ⟨rfl, -⟩
    rfl
  null := ⟨rfl, null⟩

theorem Call.compile_self {call : Call} (each : ∀ arg ∈ call.args, allowed arg)
    (placed : call.target.placement = .select → queries) (found : call.compile = .ok e) :
    Expr.Alike (.ofTexts allowed queries null) e e := by
  have operands : List.Forall₂ (Operand.Alike (.ofTexts allowed queries null)) call.operands
      call.operands :=
    operands_self fun arg member => ⟨rfl, each arg member⟩
  have agree := compile_alike rfl operands placed fun _ _ => trivial
  rw [found] at agree
  cases agree with
  | ok alike => exact alike

def Likeness.passing (queries : Bool) : Likeness :=
  .ofTexts (Passes queries · 0 0) (queries = true) null_passes

theorem Likeness.passing_lexical (queries : Bool) : (Likeness.passing queries).Lexical queries :=
  ⟨fun texts => texts.2, id⟩

section

variable {target : Target} {job : Job} {queries : Bool}

theorem renderLeaf_passes {leaf : Leaf} {sql : String}
    (found : target.renderLeaf job leaf = .ok sql) : Passes queries sql 0 0 := by
  obtain ⟨e, one, found⟩ := bind_eq_ok found
  cases found
  have alike : Expr.Alike (.passing queries) e e := Target.leaf_alike one
  exact alike.passes (Likeness.passing_lexical queries) target.dialect

variable (placed : target.placement = .select → queries = true)

include placed

theorem render_passes {name : String} {args : List String} {hints : List Hint} {sql : String}
    (each : ∀ arg ∈ args, Passes queries arg 0 0)
    (found : target.render job name args hints = .ok sql) : Passes queries sql 0 0 := by
  unfold Target.render at found
  split at found
  · obtain ⟨_, _, found⟩ := bind_eq_ok found
    obtain ⟨e, compiled, found⟩ := bind_eq_ok found
    cases found
    have alike : Expr.Alike (.passing queries) e e := Call.compile_self each placed compiled
    exact alike.passes (Likeness.passing_lexical queries) target.dialect
  · cases found

theorem formula_passes {formula : Formula} (found : formula.render target job = .ok sql) :
    Passes queries sql 0 0 :=
  formula.forall_render renderLeaf_passes (render_passes placed) found

end

end SheetSql
