import SheetSql.Text.Blank
import SheetSql.Text.Letter

namespace SheetSql

/-! Units of time as formulas write them (`hrs`, `M`, `qtrs`). -/

inductive TimeUnit where
  | millisecond | second | minute | hour | day | week | month | quarter | year
  deriving DecidableEq, Repr, Inhabited

namespace TimeUnit

def all : List TimeUnit :=
  [.millisecond, .second, .minute, .hour, .day, .week, .month, .quarter, .year]

def name : TimeUnit → String
  | .millisecond => "millisecond"
  | .second => "second"
  | .minute => "minute"
  | .hour => "hour"
  | .day => "day"
  | .week => "week"
  | .month => "month"
  | .quarter => "quarter"
  | .year => "year"

def truncateName : TimeUnit → String
  | .millisecond => "milliseconds"
  | unit => unit.name

def millis? : TimeUnit → Option Nat
  | .millisecond => some 1
  | .second => some 1000
  | .minute => some 60000
  | .hour => some 3600000
  | .day => some 86400000
  | .week => some 604800000
  | .month | .quarter | .year => none

/-- Short spellings, where the letter case counts: `M` is a month and `m` a minute. -/
def symbols : TimeUnit → List String
  | .millisecond => ["ms", "MS"]
  | .second => ["s", "S"]
  | .minute => ["m"]
  | .hour => ["h", "H"]
  | .day => ["d", "D"]
  | .week => ["w", "W"]
  | .month => ["M"]
  | .quarter => ["q", "Q"]
  | .year => ["y", "Y"]

def words : TimeUnit → List String
  | .millisecond => ["millisecond", "milliseconds", "msec", "msecs", "millis"]
  | .second => ["sec", "secs", "second", "seconds"]
  | .minute => ["min", "mins", "minute", "minutes"]
  | .hour => ["hr", "hrs", "hour", "hours"]
  | .day => ["day", "days"]
  | .week => ["wk", "wks", "week", "weeks"]
  | .month => ["mo", "mos", "mon", "mons", "month", "months"]
  | .quarter => ["qtr", "qtrs", "quarter", "quarters"]
  | .year => ["yr", "yrs", "year", "years"]

def core (cs : List Char) : List Char :=
  ((Text.trim cs).reverse.dropWhile (· == '.')).reverse

def ofText? (literal : String) : Option TimeUnit :=
  let cs := core literal.toList
  (all.find? fun unit => unit.symbols.any fun s => s.toList == cs).orElse fun _ =>
    all.find? fun unit => unit.words.any fun s => s.toList == cs.map Char.toLower

/-- An unknown unit counts as a day. -/
def ofText (literal : String) : TimeUnit :=
  (ofText? literal).getD .day

end TimeUnit

/-! A unit may be counted in another one, so many of it or a thousandth. -/

inductive Factor where
  | times (n : Nat)
  | thousandth
  deriving DecidableEq, Repr, Inhabited

def Factor.text : Factor → String
  | .times n => toString n
  | .thousandth => "0.001"

def Factor.toNat : Factor → Nat
  | .times n => n
  | .thousandth => 0

structure Measure where
  unit : TimeUnit
  factor : Factor
  deriving DecidableEq, Repr, Inhabited

namespace TimeUnit

def forAdding : TimeUnit → Measure
  | .millisecond => ⟨.second, .thousandth⟩
  | .week => ⟨.day, .times 7⟩
  | .quarter => ⟨.month, .times 3⟩
  | unit => ⟨unit, .times 1⟩

def forDifference : TimeUnit → Measure
  | .week => ⟨.day, .times 7⟩
  | .quarter => ⟨.month, .times 3⟩
  | .year => ⟨.month, .times 12⟩
  | unit => ⟨unit, .times 1⟩

def forTruncation (unit : TimeUnit) : Measure := ⟨unit, .times 1⟩

end TimeUnit

end SheetSql
