import SheetSql.Proofs.Alike.Expr
import SheetSql.Sql.Spelling

namespace SheetSql

open Sql

/-! The short ways to write expressions make like expressions of like ones. -/

variable {l : Likeness}

theorem isNumberText_of_digits {cs : List Char}
    (digits : ∀ c ∈ cs, (c.isDigit || c == '.') = true) :
    isNumberText (String.ofList cs) = true ∧ isNumberText (String.ofList ('-' :: cs)) = true := by
  have all := List.all_eq_true.2 digits
  unfold isNumberText
  rw [String.toList_ofList, String.toList_ofList]
  refine ⟨?_, all⟩
  split
  · exact absurd (digits '-' (by simp)) (by decide)
  · exact all

theorem isDigit_of_mem_repr {n : Nat} {c : Char} (member : c ∈ Nat.toDigits 10 n) :
    (c.isDigit || c == '.') = true := by
  rw [Nat.isDigit_of_mem_toDigits (by decide) (by decide) member]
  rfl

theorem isNumberText_repr (n : Nat) : isNumberText n.repr = true := by
  rw [Nat.repr_eq_ofList_toDigits]
  exact (isNumberText_of_digits fun _ member => isDigit_of_mem_repr member).1

theorem isNumberText_toString (n : Int) : isNumberText (toString n) = true := by
  cases n with
  | ofNat n => exact isNumberText_repr n
  | negSucc n =>
    have text : toString (Int.negSucc n) = String.ofList ('-' :: Nat.toDigits 10 (n + 1)) := by
      rw [Int.toString_eq_repr, ← String.toList_inj]
      simp [Int.repr]
    rw [text]
    exact (isNumberText_of_digits fun _ member => isDigit_of_mem_repr member).2

@[simp] theorem alike_int (n : Int) : Expr.Alike l (.int n) (.int n) :=
  .number (isNumberText_toString n)

@[simp] theorem alike_ofNat (n : Nat) :
    Expr.Alike l (no_index (OfNat.ofNat n : Expr)) (no_index (OfNat.ofNat n : Expr)) :=
  alike_int n

attribute [local simp] Expr.operator_eq

variable {c c' d d' e e' : Expr} {args args' : List Expr} {dialect : Dialect}

@[simp] theorem alike_coalesce :
    Expr.Alike l (.coalesce args) (.coalesce args') ↔ AllAlike l args args' := by
  simp +decide [Expr.coalesce]

@[simp] theorem alike_orElse :
    Expr.Alike l (e.orElse d) (e'.orElse d') ↔
      Expr.Alike l e e' ∧ Expr.Alike l d d' := by
  simp [Expr.orElse]

@[simp] theorem alike_nullIf :
    Expr.Alike l (e.nullIf d) (e'.nullIf d') ↔
      Expr.Alike l e e' ∧ Expr.Alike l d d' := by
  simp +decide [Expr.nullIf]

@[simp] theorem alike_caseWhen :
    Expr.Alike l (.caseWhen branches otherwise) (.caseWhen branches' otherwise') ↔
      BranchesAlike l branches branches' ∧ MaybeAlike l otherwise otherwise' := by
  simp [Expr.caseWhen]

@[simp] theorem alike_caseOf :
    Expr.Alike l (.caseOf e branches otherwise) (.caseOf e' branches' otherwise') ↔
      Expr.Alike l e e' ∧ BranchesAlike l branches branches' ∧
        MaybeAlike l otherwise otherwise' := by
  simp [Expr.caseOf]

@[simp] theorem alike_ite :
    Expr.Alike l (.ite c d e) (.ite c' d' e') ↔
      Expr.Alike l c c' ∧ Expr.Alike l d d' ∧ Expr.Alike l e e' := by
  simp [Expr.ite, and_assoc]

theorem sequence_alike (op : BinOp) {items items' : List Expr} (each : AllAlike l items items') :
    Expr.Alike l (.sequence op items) (.sequence op items') := by
  cases each with
  | nil => exact .chain op .nil
  | cons head tail =>
    cases tail with
    | nil => exact head
    | cons next rest => exact .chain op (.cons head (.cons next rest))

theorem allAlike_texts (contents : List String) :
    AllAlike l (contents.map .text) (contents.map .text) := by
  induction contents with
  | nil => exact .nil
  | cons content rest ih => exact .cons (.text content) ih

@[simp] theorem alike_rows :
    SourceAlike l (some (.rows e label columns)) (some (.rows e' label columns)) ↔
      Expr.Alike l e e' :=
  sourceAlike_function

@[simp] theorem alike_numberedRows :
    SourceAlike l (some (.numberedRows e label columns))
        (some (.numberedRows e' label columns)) ↔ Expr.Alike l e e' :=
  sourceAlike_function

@[simp] theorem alike_position :
    Expr.Alike l (dialect.position d e) (dialect.position d' e') ↔
      Expr.Alike l d d' ∧ Expr.Alike l e e' := by
  cases dialect <;> simp +decide [Dialect.position]

@[simp] theorem alike_greatest :
    Expr.Alike l (dialect.greatest args) (dialect.greatest args') ↔ AllAlike l args args' := by
  cases dialect <;> simp +decide [Dialect.greatest]

@[simp] theorem alike_least :
    Expr.Alike l (dialect.least args) (dialect.least args') ↔ AllAlike l args args' := by
  cases dialect <;> simp +decide [Dialect.least]

@[simp] theorem alike_boundedInt :
    Expr.Alike l (dialect.boundedInt e low high) (dialect.boundedInt e' low high) ↔
      Expr.Alike l e e' := by
  cases dialect <;> simp +decide [Dialect.boundedInt]

end SheetSql
