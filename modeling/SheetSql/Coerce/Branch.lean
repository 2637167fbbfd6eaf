import SheetSql.Coerce.Site

namespace SheetSql

/-! The one type that all branches of a conditional get. -/

inductive BranchType where
  | datetime | number | boolean | text
  deriving DecidableEq, Repr, Inhabited

def BranchType.ofStorage : Option Storage → BranchType
  | some .integer | some .real => .number
  | some .datetime => .datetime
  | some .boolean => .boolean
  | some .text | some .json | none => .text

namespace Site

/--
The type of some branches. Blanks and operands of unknown kind have no say; where there are no
others, the storage of the result decides.
-/
def branchType (site : Site) (branches : List Operand) : BranchType :=
  let typed := branches.filter fun branch => !branch.isBlank && branch.kind != .unknown
  if typed.any Operand.isDatetimeLike then .datetime
  else if typed.any Operand.isNumberLike && !typed.any Operand.isTextLike then .number
  else if typed.isEmpty then .ofStorage site.job.storage
  else if typed.all (·.kind == .boolean) then .boolean
  else .text

/-- The value of a branch. A blank is null unless the branches are texts. -/
def branchValue (site : Site) (type : BranchType) (branch : Operand) : Except Error Expr :=
  match type with
  | .text => site.toText branch
  | .datetime => .ok (if branch.isBlank then .null else site.toDatetime branch)
  | .number => if branch.isBlank then .ok .null else site.toNumber branch
  | .boolean =>
    match branch.kind with
    | .blank => .ok .null
    | .boolean => .ok branch.expr
    | _ => site.toBool branch

end Site

end SheetSql
