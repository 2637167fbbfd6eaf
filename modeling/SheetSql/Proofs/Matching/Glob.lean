import SheetSql.Match.Glob
import SheetSql.Proofs.Matching.Reader

namespace SheetSql.Glob

/-! What the patterns of SQLite match, and how they are read from their text. -/

def anyEnd (accepts : List Char → Bool) : List Char → Bool
  | [] => accepts []
  | c :: cs => accepts (c :: cs) || anyEnd accepts cs

def oneThen (has : Char → Bool) (accepts : List Char → Bool) : List Char → Bool
  | [] => false
  | c :: cs => has c && accepts cs

def accepts : Glob → List Char → Bool
  | [], cs => cs.isEmpty
  | .anyRun :: rest, cs => anyEnd (accepts rest) cs
  | .char c :: rest, cs => oneThen (· == c) (accepts rest) cs
  | .set members :: rest, cs => oneThen members.has (accepts rest) cs

inductive Place where
  | plain
  /-- In square brackets, after these characters, the last one first. -/
  | inSet (content : List Char)
  deriving DecidableEq, Repr

structure ReadState where
  place : Place
  /-- The items so far, the last one first. -/
  items : Glob
  deriving DecidableEq, Repr

/-- A closing bracket at the start of a set stands for itself. -/
def ReadState.step (state : ReadState) (c : Char) : ReadState :=
  match state.place with
  | .plain =>
    if c = '*' then ⟨.plain, .anyRun :: state.items⟩
    else if c = '?' then ⟨.plain, .set (.except []) :: state.items⟩
    else if c = '[' then ⟨.inSet [], state.items⟩
    else ⟨.plain, .char c :: state.items⟩
  | .inSet content =>
    if c = ']' ∧ content ≠ [] ∧ content ≠ ['^'] then
      ⟨.plain, .set (.ofContent content.reverse) :: state.items⟩
    else ⟨.inSet (c :: content), state.items⟩

def ofText? (text : String) : Option Glob :=
  let state := text.toList.foldl ReadState.step ⟨.plain, []⟩
  if state.place = .plain then some state.items.reverse else none

theorem anyEnd_iff {accepts : List Char → Bool} {cs : List Char} :
    anyEnd accepts cs = true ↔ ∃ before after, cs = before ++ after ∧ accepts after = true := by
  induction cs with
  | nil =>
    constructor
    · intro accepted
      exact ⟨[], [], rfl, accepted⟩
    · rintro ⟨before, after, split, accepted⟩
      obtain ⟨rfl, rfl⟩ := List.append_eq_nil_iff.1 split.symm
      exact accepted
  | cons c cs ih =>
    rw [anyEnd, Bool.or_eq_true, ih]
    constructor
    · rintro (accepted | ⟨before, after, rfl, accepted⟩)
      · exact ⟨[], c :: cs, rfl, accepted⟩
      · exact ⟨c :: before, after, rfl, accepted⟩
    · rintro ⟨before, after, split, accepted⟩
      cases before with
      | nil =>
        rw [List.nil_append] at split
        exact .inl (split ▸ accepted)
      | cons x before =>
        obtain ⟨-, rest⟩ := List.cons.inj split
        exact .inr ⟨before, after, rest, accepted⟩

theorem accepts_anyRun (cs : List Char) : accepts [.anyRun] cs = true := by
  refine anyEnd_iff.2 ⟨cs, [], ?_, rfl⟩
  exact (List.append_nil cs).symm

theorem accepts_having (members : CharSet) (cs : List Char) :
    (having (.set members)).accepts cs = cs.any members.has := by
  induction cs with
  | nil => rfl
  | cons c cs ih =>
    have whole : (having (.set members)).accepts (c :: cs) =
        (members.has c && accepts [.anyRun] cs || (having (.set members)).accepts cs) := rfl
    rw [whole, accepts_anyRun, Bool.and_true, ih, List.any_cons]

theorem accepts_after_char {c : Char} {rest : Glob} {cs : List Char} :
    accepts (.anyRun :: .char c :: rest) cs = true ↔
      ∃ before after, cs = before ++ c :: after ∧ rest.accepts after = true := by
  refine anyEnd_iff.trans ⟨?_, ?_⟩
  · rintro ⟨before, after, rfl, accepted⟩
    cases after with
    | nil => cases accepted
    | cons x after =>
      obtain ⟨same, accepted⟩ := Bool.and_eq_true_iff.1 accepted
      rw [eq_of_beq same]
      exact ⟨before, after, rfl, accepted⟩
  · rintro ⟨before, after, rfl, accepted⟩
    exact ⟨before, c :: after, rfl, Bool.and_eq_true_iff.2 ⟨beq_self_eq_true c, accepted⟩⟩

/-- An item is read back from its text as one that accepts the same. -/
def ReadsBack (item : GlobItem) : Prop :=
  ∀ items, ∃ read : GlobItem,
    item.text.foldl ReadState.step ⟨.plain, items⟩ = ⟨.plain, read :: items⟩ ∧
      ∀ rest, accepts (read :: rest) = accepts (item :: rest)

theorem readsBack_char (c : Char) : ReadsBack (.char c) := by
  intro items
  by_cases special : c = '*' ∨ c = '?' ∨ c = '[' ∨ c = ']'
  · refine ⟨.set (.ofContent [c]), ?_, ?_⟩
    · rw [GlobItem.text, if_pos special]
      rcases special with rfl | rfl | rfl | rfl <;> rfl
    · intro rest
      funext cs
      have has : (CharSet.ofContent [c]).has = (· == c) := by
        rcases special with rfl | rfl | rfl | rfl <;> funext x <;>
          simp [CharSet.ofContent, CharRange.ofContent, CharSet.of, CharSet.has, CharRange.has]
      rw [accepts, accepts, has]
  · refine ⟨.char c, ?_, fun rest => rfl⟩
    obtain ⟨star, mark, opening, -⟩ : c ≠ '*' ∧ c ≠ '?' ∧ c ≠ '[' ∧ c ≠ ']' := by
      simpa using special
    rw [GlobItem.text, if_neg special, List.foldl_cons, List.foldl_nil, ReadState.step]
    simp only [if_neg star, if_neg mark, if_neg opening]

theorem readsBack_digit : ReadsBack .digit := fun _ => ⟨.digit, rfl, fun _ => rfl⟩

/-- The text of such items spells a pattern that accepts the same texts. -/
theorem ofText?_text {glob : Glob} (each : ∀ item ∈ glob, ReadsBack item) :
    ∃ read, ofText? glob.text = some read ∧ read.accepts = glob.accepts := by
  have run : ∀ items, ∃ read : Glob,
      (glob.flatMap GlobItem.text).foldl ReadState.step ⟨.plain, items⟩ =
        ⟨.plain, read.reverse ++ items⟩ ∧ read.accepts = glob.accepts := by
    induction glob with
    | nil => exact fun items => ⟨[], rfl, rfl⟩
    | cons item glob ih =>
      intro items
      obtain ⟨first, step, same⟩ := each item List.mem_cons_self items
      obtain ⟨read, steps, all⟩ :=
        ih (fun item member => each item (List.mem_cons_of_mem _ member)) (first :: items)
      refine ⟨first :: read, ?_, ?_⟩
      · rw [List.flatMap_cons, List.foldl_append, step, steps]
        simp
      · rw [same]
        funext cs
        cases item with
        | anyRun => rw [accepts, accepts, all]
        | char c => rw [accepts, accepts, all]
        | set members => rw [accepts, accepts, all]
  obtain ⟨read, steps, all⟩ := run []
  refine ⟨read, ?_, all⟩
  rw [ofText?, text, String.toList_ofList, steps]
  simp

end SheetSql.Glob
