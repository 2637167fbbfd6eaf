namespace SheetSql

/-! The parts of a date and time that a format can name. -/

inductive DatePart where
  | year | month | day | hour | minute | second | millisecond
  deriving DecidableEq, Repr, Inhabited

namespace DatePart

def width : DatePart → Nat
  | .year => 4
  | .millisecond => 3
  | _ => 2

def word : DatePart → String
  | .year => "YYYY"
  | .month => "MM"
  | .day => "DD"
  | .hour => "HH24"
  | .minute => "MI"
  | .second => "SS"
  | .millisecond => "MS"

def all : List DatePart := [.hour, .year, .month, .day, .minute, .second, .millisecond]

end DatePart

/-- What a word of a parse format sets, for the words that set something only once. -/
inductive Slot where
  | year | month | day | weekday | hour | minute | second | secondOfDay | meridiem | offset
  deriving DecidableEq, Repr, Inhabited

def Slot.name : Slot → String
  | .year => "year"
  | .month => "month"
  | .day => "day"
  | .weekday => "weekday"
  | .hour => "hour"
  | .minute => "minute"
  | .second => "second"
  | .secondOfDay => "seconds of day"
  | .meridiem => "meridiem"
  | .offset => "offset"

def monthNames : List String :=
  ["January", "February", "March", "April", "May", "June", "July", "August", "September",
   "October", "November", "December"]

def monthAbbreviations : List String :=
  ["Jan", "Feb", "Mar", "Apr", "May", "Jun", "Jul", "Aug", "Sep", "Oct", "Nov", "Dec"]

def dayNames : List String :=
  ["Sunday", "Monday", "Tuesday", "Wednesday", "Thursday", "Friday", "Saturday"]

def dayAbbreviations : List String := ["Sun", "Mon", "Tue", "Wed", "Thu", "Fri", "Sat"]

end SheetSql
