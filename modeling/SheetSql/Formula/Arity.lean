import SheetSql.Formula.Operation

namespace SheetSql

/-! How many arguments an operation takes. -/

structure Arity where
  least : Nat
  most : Option Nat
  deriving DecidableEq, Repr, Inhabited

namespace Arity

def exactly (n : Nat) : Arity := ⟨n, some n⟩

def between (least most : Nat) : Arity := ⟨least, some most⟩

def atLeast (least : Nat) : Arity := ⟨least, none⟩

def accepts (arity : Arity) (count : Nat) : Bool :=
  arity.least ≤ count && arity.most.all (count ≤ ·)

def text (arity : Arity) : String :=
  match arity.most with
  | some most =>
    if most = arity.least then toString most
    else toString arity.least ++ "..=" ++ toString most
  | none => "at least " ++ toString arity.least

end Arity

def Operation.arity : Operation → Arity
  | .sum | .average | .max | .min => .atLeast 1
  | .round | .roundUp | .roundDown | .ceiling | .floor | .log => .between 1 2
  | .even | .odd | .int | .abs | .sqrt | .exp | .value => .exactly 1
  | .power | .mod => .exactly 2
  | .concatenate => .atLeast 1
  | .find | .search => .between 2 3
  | .mid | .regexpReplace => .exactly 3
  | .left | .right => .between 1 2
  | .replace => .exactly 4
  | .substitute => .between 3 4
  | .lower | .upper | .trim | .len | .t | .encodeUrl => .exactly 1
  | .rept => .exactly 2
  | .ifElse => .between 2 3
  | .switch => .atLeast 3
  | .and | .or | .xor => .atLeast 1
  | .not | .isError => .exactly 1
  | .blank => .exactly 0
  | .error => .between 0 1
  | .today | .now | .createdTime | .lastModifiedTime => .exactly 0
  | .year | .month | .weekNum | .day | .hour | .minute | .second => .exactly 1
  | .weekday | .fromNow | .toNow => .between 1 2
  | .datetimeDiff | .workday | .isSame | .isAfter | .isBefore => .between 2 3
  | .workdayDiff => .exactly 2
  | .dateAdd => .exactly 3
  | .dateStr | .timeStr => .exactly 1
  | .datetimeFormat | .datetimeParse => .between 1 2
  | .countAll | .textAll => .exactly 1
  | .countA | .count => .atLeast 1
  | .arrayJoin => .between 1 2
  | .arrayUnique | .arrayFlatten | .arrayCompact => .atLeast 1
  | .recordId | .autoNumber => .exactly 0
  | .add | .subtract | .multiply | .divide | .modulo | .concat => .exactly 2
  | .equal | .notEqual => .exactly 2
  | .greaterThan | .greaterThanOrEqual | .lessThan | .lessThanOrEqual => .exactly 2
  | .logicalAnd | .logicalOr => .exactly 2
  | .unaryMinus => .exactly 1
  | .castToNumber | .castToString | .castToBoolean | .castToDate => .exactly 1

end SheetSql
