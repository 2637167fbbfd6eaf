import SheetSql.Text.Blank
import SheetSql.Text.Letter

namespace SheetSql

/-! The operations of formulas: functions, operators and casts. -/

inductive Operation where
  | sum | average | max | min
  | round | roundUp | roundDown | ceiling | floor | even | odd | int
  | abs | sqrt | power | exp | log | mod | value
  | concatenate | find | search | mid | left | right | replace | regexpReplace | substitute
  | lower | upper | rept | trim | len | t | encodeUrl
  | ifElse | switch | and | or | xor | not | blank | error | isError
  | today | now | year | month | weekNum | weekday | day | hour | minute | second
  | fromNow | toNow | datetimeDiff | workday | workdayDiff
  | isSame | isAfter | isBefore | dateAdd | dateStr | timeStr
  | datetimeFormat | datetimeParse | createdTime | lastModifiedTime
  | countAll | countA | count | arrayJoin | arrayUnique | arrayFlatten | arrayCompact
  | recordId | autoNumber | textAll
  | add | subtract | multiply | divide | modulo | concat
  | equal | notEqual | greaterThan | greaterThanOrEqual | lessThan | lessThanOrEqual
  | logicalAnd | logicalOr | unaryMinus
  | castToNumber | castToString | castToBoolean | castToDate
  deriving DecidableEq, Repr, Inhabited

namespace Operation

def all : List Operation :=
  [.sum, .average, .max, .min,
   .round, .roundUp, .roundDown, .ceiling, .floor, .even, .odd, .int,
   .abs, .sqrt, .power, .exp, .log, .mod, .value,
   .concatenate, .find, .search, .mid, .left, .right, .replace, .regexpReplace, .substitute,
   .lower, .upper, .rept, .trim, .len, .t, .encodeUrl,
   .ifElse, .switch, .and, .or, .xor, .not, .blank, .error, .isError,
   .today, .now, .year, .month, .weekNum, .weekday, .day, .hour, .minute, .second,
   .fromNow, .toNow, .datetimeDiff, .workday, .workdayDiff,
   .isSame, .isAfter, .isBefore, .dateAdd, .dateStr, .timeStr,
   .datetimeFormat, .datetimeParse, .createdTime, .lastModifiedTime,
   .countAll, .countA, .count, .arrayJoin, .arrayUnique, .arrayFlatten, .arrayCompact,
   .recordId, .autoNumber, .textAll,
   .add, .subtract, .multiply, .divide, .modulo, .concat,
   .equal, .notEqual, .greaterThan, .greaterThanOrEqual, .lessThan, .lessThanOrEqual,
   .logicalAnd, .logicalOr, .unaryMinus,
   .castToNumber, .castToString, .castToBoolean, .castToDate]

def name : Operation → String
  | .sum => "SUM"
  | .average => "AVERAGE"
  | .max => "MAX"
  | .min => "MIN"
  | .round => "ROUND"
  | .roundUp => "ROUNDUP"
  | .roundDown => "ROUNDDOWN"
  | .ceiling => "CEILING"
  | .floor => "FLOOR"
  | .even => "EVEN"
  | .odd => "ODD"
  | .int => "INT"
  | .abs => "ABS"
  | .sqrt => "SQRT"
  | .power => "POWER"
  | .exp => "EXP"
  | .log => "LOG"
  | .mod => "MOD"
  | .value => "VALUE"
  | .concatenate => "CONCATENATE"
  | .find => "FIND"
  | .search => "SEARCH"
  | .mid => "MID"
  | .left => "LEFT"
  | .right => "RIGHT"
  | .replace => "REPLACE"
  | .regexpReplace => "REGEXP_REPLACE"
  | .substitute => "SUBSTITUTE"
  | .lower => "LOWER"
  | .upper => "UPPER"
  | .rept => "REPT"
  | .trim => "TRIM"
  | .len => "LEN"
  | .t => "T"
  | .encodeUrl => "ENCODE_URL_COMPONENT"
  | .ifElse => "IF"
  | .switch => "SWITCH"
  | .and => "AND"
  | .or => "OR"
  | .xor => "XOR"
  | .not => "NOT"
  | .blank => "BLANK"
  | .error => "ERROR"
  | .isError => "IS_ERROR"
  | .today => "TODAY"
  | .now => "NOW"
  | .year => "YEAR"
  | .month => "MONTH"
  | .weekNum => "WEEK_NUM"
  | .weekday => "WEEKDAY"
  | .day => "DAY"
  | .hour => "HOUR"
  | .minute => "MINUTE"
  | .second => "SECOND"
  | .fromNow => "FROM_NOW"
  | .toNow => "TO_NOW"
  | .datetimeDiff => "DATETIME_DIFF"
  | .workday => "WORKDAY"
  | .workdayDiff => "WORKDAY_DIFF"
  | .isSame => "IS_SAME"
  | .isAfter => "IS_AFTER"
  | .isBefore => "IS_BEFORE"
  | .dateAdd => "DATE_ADD"
  | .dateStr => "DATESTR"
  | .timeStr => "TIMESTR"
  | .datetimeFormat => "DATETIME_FORMAT"
  | .datetimeParse => "DATETIME_PARSE"
  | .createdTime => "CREATED_TIME"
  | .lastModifiedTime => "LAST_MODIFIED_TIME"
  | .countAll => "COUNTALL"
  | .countA => "COUNTA"
  | .count => "COUNT"
  | .arrayJoin => "ARRAY_JOIN"
  | .arrayUnique => "ARRAY_UNIQUE"
  | .arrayFlatten => "ARRAY_FLATTEN"
  | .arrayCompact => "ARRAY_COMPACT"
  | .recordId => "RECORD_ID"
  | .autoNumber => "AUTO_NUMBER"
  | .textAll => "TEXT_ALL"
  | .add => "ADD"
  | .subtract => "SUBTRACT"
  | .multiply => "MULTIPLY"
  | .divide => "DIVIDE"
  | .modulo => "MODULO"
  | .concat => "CONCAT"
  | .equal => "EQUAL"
  | .notEqual => "NOT_EQUAL"
  | .greaterThan => "GREATER_THAN"
  | .greaterThanOrEqual => "GREATER_THAN_OR_EQUAL"
  | .lessThan => "LESS_THAN"
  | .lessThanOrEqual => "LESS_THAN_OR_EQUAL"
  | .logicalAnd => "LOGICAL_AND"
  | .logicalOr => "LOGICAL_OR"
  | .unaryMinus => "UNARY_MINUS"
  | .castToNumber => "CAST_TO_NUMBER"
  | .castToString => "CAST_TO_STRING"
  | .castToBoolean => "CAST_TO_BOOLEAN"
  | .castToDate => "CAST_TO_DATE"

def symbols : Operation → List String
  | .add => ["+"]
  | .subtract => ["-"]
  | .multiply => ["*"]
  | .divide => ["/"]
  | .modulo => ["%"]
  | .concat => ["&"]
  | .equal => ["="]
  | .notEqual => ["!=", "<>"]
  | .greaterThan => [">"]
  | .greaterThanOrEqual => [">="]
  | .lessThan => ["<"]
  | .lessThanOrEqual => ["<="]
  | .logicalAnd => ["&&"]
  | .logicalOr => ["||"]
  | _ => []

def spelled? (word : List Char) : Option Operation :=
  all.find? fun operation =>
    (operation.name :: operation.symbols).any fun spelling => Text.sameLetters spelling.toList word

def splitCapitals : List Char → List Char
  | [] => []
  | first :: rest =>
    first :: rest.flatMap fun c => if c.isUpper then ['_', c] else [c]

def ofName? (word : String) : Option Operation :=
  let word := Text.trim word.toList
  (spelled? word).orElse fun _ => spelled? (splitCapitals word)

end Operation

end SheetSql
