import SheetSql.Sql.Expr

namespace SheetSql

/-! Short ways to write expressions. -/

namespace Expr

def int (n : Int) : Expr := .number (toString n)

instance (n : Nat) : OfNat Expr n := ⟨.int n⟩

instance : Add Expr := ⟨fun left right => .binary left .add right⟩

instance : Sub Expr := ⟨fun left right => .binary left .sub right⟩

instance : Mul Expr := ⟨fun left right => .binary left .mul right⟩

instance : Div Expr := ⟨fun left right => .binary left .div right⟩

instance : Mod Expr := ⟨fun left right => .binary left .mod right⟩

instance : Neg Expr := ⟨.unary .neg⟩

instance : Append Expr := ⟨fun left right => .binary left .concat right⟩

def eq (left right : Expr) : Expr := .binary left .eq right

def ne (left right : Expr) : Expr := .binary left .ne right

def lt (left right : Expr) : Expr := .binary left .lt right

def le (left right : Expr) : Expr := .binary left .le right

def gt (left right : Expr) : Expr := .binary left .gt right

def ge (left right : Expr) : Expr := .binary left .ge right

def and (left right : Expr) : Expr := .binary left .and right

def or (left right : Expr) : Expr := .binary left .or right

def not (operand : Expr) : Expr := .unary .not operand

def isNull (operand : Expr) : Expr := .nullTest operand false

def isNotNull (operand : Expr) : Expr := .nullTest operand true

def sequence (op : BinOp) : List Expr → Expr
  | [item] => item
  | items => .chain op items

def isIn (operand : Expr) (list : List Expr) : Expr := .member operand list false

def coalesce (args : List Expr) : Expr := .call "COALESCE" args

def orElse (operand default : Expr) : Expr := coalesce [operand, default]

def nullIf (operand value : Expr) : Expr := .call "NULLIF" [operand, value]

def caseWhen (branches : List Branch) (otherwise : Option Expr) : Expr :=
  .case none branches otherwise

def caseOf (subject : Expr) (branches : List Branch) (otherwise : Option Expr) : Expr :=
  .case (some subject) branches otherwise

def ite (condition whenTrue whenFalse : Expr) : Expr :=
  .caseWhen [⟨condition, whenTrue⟩] (some whenFalse)

/-- The operators in full. -/
theorem operator_eq :
    (∀ left right : Expr,
      left + right = .binary left .add right ∧ left - right = .binary left .sub right ∧
      left * right = .binary left .mul right ∧ left / right = .binary left .div right ∧
      left % right = .binary left .mod right ∧ left ++ right = .binary left .concat right ∧
      left.eq right = .binary left .eq right ∧ left.ne right = .binary left .ne right ∧
      left.lt right = .binary left .lt right ∧ left.le right = .binary left .le right ∧
      left.gt right = .binary left .gt right ∧ left.ge right = .binary left .ge right ∧
      left.and right = .binary left .and right ∧ left.or right = .binary left .or right) ∧
    ∀ operand : Expr,
      -operand = .unary .neg operand ∧ operand.not = .unary .not operand ∧
      operand.isNull = .nullTest operand false ∧ operand.isNotNull = .nullTest operand true ∧
      ∀ list, operand.isIn list = .member operand list false :=
  ⟨fun _ _ => ⟨rfl, rfl, rfl, rfl, rfl, rfl, rfl, rfl, rfl, rfl, rfl, rfl, rfl, rfl⟩,
    fun _ => ⟨rfl, rfl, rfl, rfl, fun _ => rfl⟩⟩

end Expr

namespace Select

def of (columns : List Projection) : Select :=
  { recursion := none, columns, source := none, join := none, filter := none, order := [] }

def value (e : Expr) : Select := of [⟨e, none⟩]

end Select

namespace Source

def rows (call : Expr) (label : String) (columns : List String) : Source :=
  .function call false label columns

def numberedRows (call : Expr) (label : String) (columns : List String) : Source :=
  .function call true label columns

end Source

end SheetSql
