import SheetSql.Format.Fault
import SheetSql.Formula.Arity
import SheetSql.Target
import SheetSql.Text.Shown

namespace SheetSql

/-! Why a formula cannot be compiled. Bad data in a row is no error; it becomes null. -/

inductive ArgumentFault where
  | empty
  | missing
  | notText
  | notNumber
  | notPositive
  | notWeekStart
  | holidays
  deriving DecidableEq, Repr, Inhabited

inductive Error where
  | unsupported (name : String) (target : Target)
  | argumentCount (operation : Operation) (count : Nat)
  | argument (operation : Operation) (position : Nat) (fault : ArgumentFault)
  | hintCount (operation : Operation) (arguments hints : Nat)
  | needsSubquery (operation : Operation)
  | unknownZone (name : String)
  | unknownField (id : String)
  | invalidFormat (format : String) (fault : FormatFault)
  deriving DecidableEq, Repr, Inhabited

def ArgumentFault.message : ArgumentFault → String
  | .empty => "is empty"
  | .missing => "is missing"
  | .notText => "must be a string literal"
  | .notNumber => "must be a numeric literal"
  | .notPositive => "must be a positive whole number"
  | .notWeekStart => "must be \"Sunday\" or \"Monday\""
  | .holidays => "holidays are not supported"

def Error.message : Error → String
  | .unsupported name target =>
    "unsupported function: " ++ name ++ " is not available for " ++ target.name
  | .argumentCount operation count =>
    operation.name ++ " expects " ++ operation.arity.text ++ " argument(s), got " ++
      toString count
  | .argument operation position fault =>
    "argument " ++ toString position ++ " of " ++ operation.name ++ " " ++ fault.message
  | .hintCount operation arguments hints =>
    operation.name ++ " was given " ++ toString arguments ++ " argument(s) but " ++
      toString hints ++ " metadata record(s)"
  | .needsSubquery operation =>
    operation.name ++ " needs a subquery, which is not allowed in a generated column"
  | .unknownZone name => "invalid timezone: " ++ name
  | .unknownField id => "unknown field: " ++ id
  | .invalidFormat format fault =>
    "invalid format " ++ Text.shown format ++ ": " ++ fault.message

end SheetSql
