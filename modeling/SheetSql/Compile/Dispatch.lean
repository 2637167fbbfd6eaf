import SheetSql.Compile.Array
import SheetSql.Compile.DateText
import SheetSql.Compile.Duration
import SheetSql.Compile.Logic
import SheetSql.Compile.Numeric
import SheetSql.Compile.Rounding
import SheetSql.Compile.Text
import SheetSql.Compile.Workday

namespace SheetSql.Call

/-! The expression of a call, by its operation. -/

def shared (call : Call) : Except Error Expr :=
  match call.operation with
  | .sum => call.sum
  | .average => call.average
  | .ceiling => call.ceiling
  | .floor => call.floor
  | .even => call.even
  | .odd => call.odd
  | .int => call.int
  | .abs => call.abs
  | .sqrt => call.sqrt
  | .power => call.power
  | .exp => call.exp
  | .log => call.log
  | .value | .castToNumber => call.number 0
  | .concatenate | .concat => call.concatenate
  | .find => call.find
  | .search => call.search
  | .mid => call.mid
  | .left => call.left
  | .replace => call.replace
  | .substitute => if call.has 3 then .error call.unsupported else call.substituteAll
  | .lower => call.textFunction "LOWER"
  | .upper => call.textFunction "UPPER"
  | .trim => call.textFunction "TRIM"
  | .len => call.len
  | .t => call.t
  | .textAll | .castToString => call.text 0
  | .ifElse => call.ifElse
  | .switch => call.switch
  | .and | .logicalAnd => call.logical .and
  | .or | .logicalOr => call.logical .or
  | .xor => call.xor
  | .not => call.not
  | .castToBoolean => call.truth 0
  | .blank | .error => .ok .null
  | .isError => .ok (Expr.fragment (call.sqlAt 0)).isNull
  | .now =>
    match call.target.placement with
    | .generated => .ok call.frozenNow
    | .select => .error call.unsupported
  | .today =>
    match call.target.placement with
    | .generated => .ok call.frozenToday
    | .select => .error call.unsupported
  | .castToDate => .ok (call.datetime 0)
  | .createdTime => .ok (call.systemColumn "__created_time")
  | .lastModifiedTime => .ok (call.systemColumn "__last_modified_time")
  | .recordId => .ok (call.systemColumn "__id")
  | .autoNumber => .ok (call.systemColumn "__auto_number")
  | .countAll => .ok call.countAll
  | .countA => call.countA
  | .count => call.count
  | .arrayJoin => call.arrayJoin
  | .add => call.add
  | .subtract => call.arithmetic .sub
  | .multiply => call.arithmetic .mul
  | .divide => call.divide
  | .unaryMinus => call.unaryMinus
  | .equal => call.equality false
  | .notEqual => call.equality true
  | .greaterThan => call.comparison .gt
  | .greaterThanOrEqual => call.comparison .ge
  | .lessThan => call.comparison .lt
  | .lessThanOrEqual => call.comparison .le
  | _ => .error call.unsupported

def own? (call : Call) : Option (Except Error Expr) :=
  match call.operation with
  | .max => some call.max
  | .min => some call.min
  | .round => some call.round
  | .roundUp => some call.roundUp
  | .roundDown => some call.roundDown
  | .mod | .modulo => some call.modulo
  | .right => some call.right
  | .substitute => if call.has 3 then some call.substituteNth else none
  | .rept => some call.rept
  | .regexpReplace =>
    match call.dialect with
    | .postgres => some call.regexpReplace
    | .sqlite => none
  | .encodeUrl =>
    match call.dialect with
    | .postgres => some call.encodeUrl
    | .sqlite => none
  | .error =>
    match call.dialect, call.target.placement with
    | .postgres, .select => some call.raise
    | _, _ => none
  | .now =>
    match call.target.placement with
    | .select => some (.ok (liveNow call.dialect))
    | .generated => none
  | .today =>
    match call.target.placement with
    | .select => some (.ok (liveToday call.dialect call.jobClock))
    | .generated => none
  | .year => some (.ok call.year)
  | .month => some (.ok call.month)
  | .day => some (.ok call.day)
  | .hour => some (.ok call.hour)
  | .minute => some (.ok call.minute)
  | .second => some (.ok call.second)
  | .weekNum => some (.ok call.weekNum)
  | .weekday => some call.weekday
  | .datetimeDiff => some call.datetimeDiff
  | .fromNow | .toNow => some call.fromNow
  | .workday => some call.workday
  | .workdayDiff => some (.ok call.workdayDiff)
  | .isSame => some (call.dateRelation .eq)
  | .isAfter => some (call.dateRelation .gt)
  | .isBefore => some (call.dateRelation .lt)
  | .dateAdd => some call.dateAdd
  | .dateStr => some (.ok (call.format "YYYY-MM-DD"))
  | .timeStr => some (.ok (call.format "HH:mm:ss"))
  | .datetimeFormat => some call.datetimeFormat
  | .datetimeParse => some call.datetimeParse
  | .arrayUnique => some (call.arrayOf .unique)
  | .arrayFlatten => some (call.arrayOf .flatten)
  | .arrayCompact => some (call.arrayOf .compact)
  | _ => none

def compile (call : Call) : Except Error Expr :=
  match call.own? with
  | some result => result
  | none => call.shared

end SheetSql.Call
