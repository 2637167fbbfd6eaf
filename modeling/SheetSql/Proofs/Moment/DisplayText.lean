import Mathlib.Tactic.IntervalCases
import SheetSql.Compile.DateText
import SheetSql.Proofs.Denotation.Scalar
import SheetSql.Proofs.Format.Marks
import SheetSql.Proofs.Moment.LocalTime

namespace SheetSql

/-! Times in display formats. -/

open Format Call

namespace Stamp

def hour (stamp : Stamp) : Nat := stamp.millis / 3600000

def hour12 (stamp : Stamp) : Nat := (stamp.hour + 11) % 12 + 1

def minute (stamp : Stamp) : Nat := stamp.millis / 60000 % 60

def second (stamp : Stamp) : Nat := stamp.millis / 1000 % 60

def weekday (stamp : Stamp) : Nat := (stamp.date.weekday % 7).toNat

def nameOf (names : List String) (n : Nat) : List Char := (names[n]?.getD "").toList

def shownPart (stamp : Stamp) : DisplayPart → List Char
  | .year4 => Chars.digits 4 stamp.date.year.toNat
  | .year2 => Chars.digits 2 (stamp.date.year.toNat % 100)
  | .monthName => nameOf monthNames (stamp.date.month - 1)
  | .monthAbbr => nameOf monthAbbreviations (stamp.date.month - 1)
  | .month2 => Chars.digits 2 stamp.date.month
  | .month => Nat.toDigits 10 stamp.date.month
  | .day2 => Chars.digits 2 stamp.date.day
  | .day => Nat.toDigits 10 stamp.date.day
  | .weekdayName => nameOf dayNames stamp.weekday
  | .weekdayAbbr => nameOf dayAbbreviations stamp.weekday
  | .hour24Padded => Chars.digits 2 stamp.hour
  | .hour24 => Nat.toDigits 10 stamp.hour
  | .hour12Padded => Chars.digits 2 stamp.hour12
  | .hour12 => Nat.toDigits 10 stamp.hour12
  | .minute2 => Chars.digits 2 stamp.minute
  | .minute => Nat.toDigits 10 stamp.minute
  | .second2 => Chars.digits 2 stamp.second
  | .second => Nat.toDigits 10 stamp.second
  | .millisecond => Chars.digits 3 (stamp.millis % 1000)
  | .meridiemUpper => (if stamp.hour < 12 then "AM" else "PM").toList
  | .meridiemLower => (if stamp.hour < 12 then "am" else "pm").toList

def shownToken (stamp : Stamp) : DisplayToken → List Char
  | .literal text => text.toList
  | .part part => stamp.shownPart part

def number (fill : Bool) (width n : Nat) : List Char :=
  if fill then Nat.toDigits 10 n else Chars.digits width n

def name (fill : Bool) (cs : List Char) : List Char :=
  if fill then cs else cs.rightpad 9 ' '

/-- The number of a year, which is counted down to one before the first and up after that. -/
def yearOfEra (stamp : Stamp) : Nat :=
  (if 0 < stamp.date.year then stamp.date.year else 1 - stamp.date.year).toNat

/-- A word of a template. Those that no display format has are left open. -/
def word? (stamp : Stamp) (fill : Bool) (spelling : List Char) : Option (List Char) :=
  match String.ofList spelling with
  | "YYYY" => some (number fill 4 stamp.yearOfEra)
  | "YY" => some (number fill 2 (stamp.yearOfEra % 100))
  | "Month" => some (name fill (nameOf monthNames (stamp.date.month - 1)))
  | "Mon" => some (nameOf monthAbbreviations (stamp.date.month - 1))
  | "MM" => some (number fill 2 stamp.date.month)
  | "DD" => some (number fill 2 stamp.date.day)
  | "Day" => some (name fill (nameOf dayNames stamp.weekday))
  | "Dy" => some (nameOf dayAbbreviations stamp.weekday)
  | "HH24" => some (number fill 2 stamp.hour)
  | "HH12" => some (number fill 2 stamp.hour12)
  | "MI" => some (number fill 2 stamp.minute)
  | "SS" => some (number fill 2 stamp.second)
  | "SSSS" => some (Nat.toDigits 10 (stamp.millis / 1000))
  | "MS" => some (number fill 3 (stamp.millis % 1000))
  | "AM" => some (if stamp.hour < 12 then "AM" else "PM").toList
  | "am" => some (if stamp.hour < 12 then "am" else "pm").toList
  | _ => none

def printed? (stamp : Stamp) : List Mark → Option (List Char)
  | [] => some []
  | .literal c :: rest => (stamp.printed? rest).map (c :: ·)
  | .fill :: .word spelling :: rest => do
      return (← stamp.word? true spelling) ++ (← stamp.printed? rest)
  | .fill :: rest => stamp.printed? rest
  | .word spelling :: rest => do
      return (← stamp.word? false spelling) ++ (← stamp.printed? rest)

def inTemplate? (stamp : Stamp) (template : String) : Option (List Char) :=
  match (readMarks template).mapM id with
  | .ok marks => stamp.printed? marks
  | .error _ => none

section

variable {stamp : Stamp}

theorem printed?_word (spelling : List Char) (rest : List Mark) :
    stamp.printed? (.word spelling :: rest) =
      (stamp.word? false spelling).bind fun cs => (stamp.printed? rest).map (cs ++ ·) := by
  rw [printed?]
  cases stamp.word? false spelling <;> cases stamp.printed? rest <;> rfl

theorem printed?_fill (spelling : List Char) (rest : List Mark) :
    stamp.printed? (.fill :: .word spelling :: rest) =
      (stamp.word? true spelling).bind fun cs => (stamp.printed? rest).map (cs ++ ·) := by
  rw [printed?]
  cases stamp.word? true spelling <;> cases stamp.printed? rest <;> rfl

theorem word?_keyword (positive : 0 < stamp.date.year) (part : DisplayPart) :
    stamp.word? (Text.startsWith "FM".toList part.template.toList) part.keyword =
      some (stamp.shownPart part) := by
  have year : stamp.yearOfEra = stamp.date.year.toNat := by rw [yearOfEra, if_pos positive]
  cases part with
  | year4 => exact congrArg (fun year => some (Chars.digits 4 year)) year
  | year2 => exact congrArg (fun year => some (Chars.digits 2 (year % 100))) year
  | _ => rfl

theorem printed?_part (positive : 0 < stamp.date.year) (part : DisplayPart) (rest : List Mark) :
    stamp.printed? (part.marks ++ rest) =
      (stamp.printed? rest).map (stamp.shownPart part ++ ·) := by
  have word := word?_keyword positive part
  unfold DisplayPart.marks
  split
  · next fills =>
      rw [fills] at word
      rw [List.cons_append, List.singleton_append, printed?_fill, word, Option.bind_some]
  · next pads =>
      rw [eq_false_of_ne_true pads] at word
      rw [List.singleton_append, printed?_word, word, Option.bind_some]

theorem printed?_literal (cs : List Char) (rest : List Mark) :
    stamp.printed? (cs.map Mark.literal ++ rest) = (stamp.printed? rest).map (cs ++ ·) := by
  induction cs with
  | nil => exact Option.map_id'.symm
  | cons c cs ih =>
    rw [List.map_cons, List.cons_append, printed?, ih, Option.map_map]
    rfl

theorem printed?_tokens (positive : 0 < stamp.date.year) (tokens : List DisplayToken) :
    stamp.printed? (tokens.flatMap DisplayToken.marks) =
      some (tokens.flatMap stamp.shownToken) := by
  induction tokens with
  | nil => rfl
  | cons token tokens ih =>
    rw [List.flatMap_cons, List.flatMap_cons]
    cases token with
    | literal text =>
      rw [DisplayToken.marks, printed?_literal, ih]
      rfl
    | part part =>
      rw [DisplayToken.marks, printed?_part positive, ih]
      rfl

theorem inTemplate?_displayTemplate (positive : 0 < stamp.date.year) {tokens : List DisplayToken}
    (apart : Apart tokens) :
    stamp.inTemplate? (displayTemplate tokens) = some (tokens.flatMap stamp.shownToken) := by
  have all : ∀ marks : List Mark,
      (marks.map (Except.ok (ε := FormatFault))).mapM id = .ok marks := by
    intro marks
    induction marks with
    | nil => rfl
    | cons mark marks ih =>
      rw [List.map_cons, List.mapM_cons, ih]
      rfl
  rw [inTemplate?, (readMarks_eq_iff tokens).2 apart, all]
  exact printed?_tokens positive tokens

end

end Stamp

namespace Server

def showCall (server : Server) (function : String) (args : List Item) : Option Item :=
  match function, args with
  | "to_char", [.value .null, _] => some .null
  | "to_char", [.stamp stamp, .value (.text template)] =>
    (stamp.inTemplate? (String.ofList template)).map .text
  | "substr", [.value (.text cs), .value (.int start), .value (.int count)] =>
    if 1 ≤ start ∧ 0 ≤ count then some (.text ((cs.drop (start.toNat - 1)).take count.toNat))
    else none
  | "printf", [.value (.text format), .value (.int n)] =>
    if format = "%02d".toList ∧ 0 ≤ n then
      some (.text ((Nat.toDigits 10 n.toNat).leftpad 2 '0'))
    else none
  | function, args => server.call function args

noncomputable def display (server : Server) : Interpretation Item :=
  { server.interpretation with call := server.showCall }

end Server

/-- A moment tells a time on its clock, or none if it is null. -/
def Moment.Tells (server : Server) (moment : Moment) : Option Stamp → Prop
  | none => moment.value.Computes server.display .null
  | some stamp =>
    ∃ value, moment.value.Computes server.display (.value value) ∧
      server.local? moment.clock value = some (some stamp)

section

variable {server : Server} {moment : Moment} {stamp : Stamp}

theorem display_number (cs : List Char) :
    server.display.number cs =
      (Decimal.read? cs).map fun decimal => .value (.ofWritten cs decimal) := rfl

theorem computes_nat (n : Nat) : (Expr.int n).Computes server.display (.int n) := by
  refine .number ?_
  rw [display_number, read?_nat, Option.map_some, ofWritten_nat]

theorem toChar (stamp : Stamp) (template : List Char) :
    server.showCall "to_char" [.stamp stamp, .text template] =
      (stamp.inTemplate? (String.ofList template)).map .text := by
  rw [Server.showCall]

theorem computes_toChar (postgres : server.dialect = .postgres) {time : Option Stamp}
    (tells : moment.Tells server time) {template : String} {shown : Stamp → List Char}
    (printed : ∀ stamp ∈ time, stamp.inTemplate? template = some (shown stamp)) :
    (Expr.call "to_char" [moment.wall, .text template]).Computes server.display
      (time.elim .null fun stamp => .text (shown stamp)) := by
  cases time with
  | none =>
    have wall : moment.wall.Computes server.display .null := .atTimeZone tells (.text _) rfl
    exact .call (by decide) (.cons wall (.cons (.text _) .nil)) rfl
  | some stamp =>
    obtain ⟨value, isValue, found⟩ := tells
    have wall : moment.wall.Computes server.display (.stamp stamp) := by
      refine .atTimeZone isValue (.text _) ?_
      unfold Server.local? at found
      rw [postgres] at found
      cases value with
      | other text =>
        cases found
        rfl
      | null | bool _ | int _ | real _ | text _ => cases found
    have text : (Expr.text template).Computes server.display (.text template.toList) := .text _
    refine .call (by decide) (.cons wall (.cons text .nil)) ?_
    have called : server.display.call = server.showCall := rfl
    rw [called, toChar, String.ofList_toList, printed stamp rfl]
    rfl

/-- A time that a moment tells on SQLite, and what its formats show. -/
structure Moment.ShowsTime (server : Server) (moment : Moment) (stamp : Stamp) : Prop where
  sqlite : server.dialect = .sqlite
  isShown : stamp.IsShown
  computes_shown : ∀ {format : String} {cs : List Char}, stamp.shown? format.toList = some cs →
    (moment.shown format).Computes server.display (.text cs)
  isNull : moment.value.isNull.Computes server.display (.value (.ofBool server.dialect false))

theorem Moment.Tells.showsTime (sqlite : server.dialect = .sqlite)
    (tells : moment.Tells server (some stamp)) : moment.ShowsTime server stamp := by
  obtain ⟨value, isValue, found⟩ := tells
  unfold Server.local? at found
  rw [sqlite] at found
  have filled : (Item.value value).isNull = false := by
    cases value with
    | null => cases found
    | bool _ | int _ | real _ | text _ | other _ => rfl
  have isTime : server.time? value [(minutesText moment.clock.minutes).toList] = some stamp := by
    cases value with
    | null => cases found
    | bool _ | int _ | real _ | text _ | other _ => exact Option.some.inj found
  refine ⟨sqlite, server.time?_isShown isTime, ?_, ?_⟩
  · intro format cs shown
    refine .call (by decide) (.cons (.text format) (.cons isValue (.cons (.text _) .nil))) ?_
    exact call_strftime [_] filled isTime shown
  · rw [← filled]
    exact .isNull isValue

section

variable (shows : moment.ShowsTime server stamp)
include shows

theorem computes_part {format : String} {c : Char} {cs : List Char}
    (spelled : format.toList = ['%', c]) (part : stamp.part? c = some cs) :
    (moment.shown format).Computes server.display (.text cs) := by
  refine shows.computes_shown ?_
  rw [spelled, Stamp.shown?, part, Stamp.shown?]
  exact congrArg some (List.append_nil cs)

theorem computes_number {format : String} {c : Char} {n : Nat} (spelled : format.toList = ['%', c])
    (part : stamp.part? c = some (Chars.digits 2 n)) (fits : n < 100) :
    ((moment.shown format).cast .integer).Computes server.display (.int n) := by
  refine .cast (computes_part shows spelled part) ?_
  change server.cast .integer (.value (.text (Chars.digits 2 n))) = _
  simp only [Server.cast, shows.sqlite]
  rw [Value.castWhole_digits fits (by omega)]

end

theorem computes_natText {e : Expr} {n : Nat} (value : e.Computes server.display (.int n)) :
    (e.cast .text).Computes server.display (.text (Nat.toDigits 10 n)) := by
  refine .cast value ?_
  rw [← toList_nat]
  rfl

def nameFor (cs : List Char) (entries : List (String × String)) : Option (List Char) :=
  (entries.find? fun entry => cs == entry.1.toList).map (·.2.toList)

theorem computes_namesBy {key : Expr} {cs name : List Char}
    (value : key.Computes server.display (.text cs)) {entries : List (String × String)}
    (found : nameFor cs entries = some name) :
    (namesBy key entries).Computes server.display (.text name) := by
  rw [Expr.Computes, namesBy, Expr.caseOf, Expr.compute, value, Option.bind_some]
  induction entries with
  | nil => cases found
  | cons entry rest ih =>
    have compared : server.display.binary .eq (.text cs) (.text entry.1.toList) =
      some (server.display.bool (cs == entry.1.toList)) := rfl
    rw [List.map_cons, computeBranchesOf_cons (.text entry.1) compared
      (server.display.holds?_bool _)]
    rw [nameFor, List.find?_cons] at found
    cases same : cs == entry.1.toList with
    | true =>
      rw [same] at found
      cases found
      rw [if_pos rfl]
      exact Expr.Computes.text entry.2
    | false =>
      rw [same] at found
      rw [if_neg (by decide)]
      exact ih found

theorem nameFor_month {month : Nat} (first : 1 ≤ month) (last : month ≤ 12) :
    nameFor (Chars.digits 2 month) (monthNumbers.zip monthNames) =
        some (Stamp.nameOf monthNames (month - 1)) ∧
      nameFor (Chars.digits 2 month) (monthNumbers.zip monthAbbreviations) =
        some (Stamp.nameOf monthAbbreviations (month - 1)) := by
  interval_cases month <;> exact ⟨rfl, rfl⟩

theorem nameFor_weekday {day : Nat} (last : day < 7) :
    nameFor (Chars.digits 1 day) (weekdayNumbers.zip dayNames) =
        some (Stamp.nameOf dayNames day) ∧
      nameFor (Chars.digits 1 day) (weekdayNumbers.zip dayAbbreviations) =
        some (Stamp.nameOf dayAbbreviations day) := by
  interval_cases day <;> exact ⟨rfl, rfl⟩

theorem computes_substr {e : Expr} {cs : List Char} (value : e.Computes server.display (.text cs))
    (start count : Nat) :
    (Expr.call "substr" [e, .int (start + 1 : Nat), .int count]).Computes server.display
      (.text ((cs.drop start).take count)) := by
  refine .call (by decide) (.cons value (.cons (computes_nat _) (.cons (computes_nat _) .nil))) ?_
  change (if 1 ≤ ((start + 1 : Nat) : Int) ∧ 0 ≤ (count : Int) then
    some (Item.text ((cs.drop (((start + 1 : Nat) : Int).toNat - 1)).take (count : Int).toNat))
    else none) = _
  rw [if_pos (by omega)]
  rfl

theorem drop_digits (n : Nat) :
    ((Chars.digits 4 n).drop 2).take 2 = Chars.digits 2 (n % 100) := by
  have tens : n / 10 % 10 = n % 100 / 10 % 10 := by omega
  have ones : n % 10 = n % 100 % 10 := by omega
  change [Nat.digitChar (n / 10 % 10), Nat.digitChar (n % 10)] =
    [Nat.digitChar (n % 100 / 10 % 10), Nat.digitChar (n % 100 % 10)]
  rw [tens, ones]

theorem leftpad_hour12 (stamp : Stamp) :
    (Nat.toDigits 10 stamp.hour12).leftpad 2 '0' = Chars.digits 2 stamp.hour12 := by
  have small : (stamp.hour + 11) % 12 < 12 := Nat.mod_lt _ (by decide)
  unfold Stamp.hour12
  generalize (stamp.hour + 11) % 12 = hour at small ⊢
  interval_cases hour <;> rfl

section

variable (shows : moment.ShowsTime server stamp)
include shows

theorem computes_hour :
    (shownPart.hour moment).Computes server.display (.int stamp.hour) := by
  have small := Stamp.millis_lt shows.isShown
  have fits : stamp.hour < 100 := by
    unfold Stamp.hour
    omega
  exact computes_number shows rfl rfl fits

theorem computes_hour12 :
    (shownPart.hour12 moment).Computes server.display (.int stamp.hour12) := by
  have later : (shownPart.hour moment + 11).Computes server.display (.int (stamp.hour + 11)) :=
    .binary (computes_hour shows) (computes_nat 11) rfl
  have turned : ((shownPart.hour moment + 11) % 12).Computes server.display
      (.int ((stamp.hour + 11 : Int).tmod 12)) := by
    refine .binary later (computes_nat 12) ?_
    change (Value.remainder? server.dialect (.int (stamp.hour + 11)) (.int 12)).map Item.value = _
    rfl
  have next : (shownPart.hour12 moment).Computes server.display
      (.int ((stamp.hour + 11 : Int).tmod 12 + 1)) :=
    .binary turned (computes_nat 1) rfl
  exact next

theorem computes_meridiem (morning evening : String) :
    (Expr.ite ((shownPart.hour moment).lt 12) (.text morning) (.text evening)).Computes
      server.display (.text (if stamp.hour < 12 then morning else evening).toList) := by
  have test : ((shownPart.hour moment).lt 12).Computes server.display
      (server.display.bool (decide ((stamp.hour : Int) < 12))) := by
    refine .binary (computes_hour shows) (computes_nat 12) ?_
    change server.compare ((Item.int stamp.hour).before? server.dialect (.int 12)) false = _
    rw [Server.before?_int]
    rfl
  refine .ite test (server.display.holds?_bool _) ?_ ?_
  · intro holds
    have early := of_decide_eq_true (Option.some.inj holds)
    rw [if_pos (by omega)]
    exact .text morning
  · intro other
    have late : ¬(stamp.hour : Int) < 12 := fun early =>
      other (congrArg some (decide_eq_true early))
    rw [if_neg (by omega)]
    exact .text evening

theorem computes_shownPart (part : DisplayPart) :
    (shownPart moment part).Computes server.display (.text (stamp.shownPart part)) := by
  have real := shows.isShown.isReal
  have small := Stamp.millis_lt shows.isShown
  have month := nameFor_month real.month_pos real.month_le
  have day : stamp.date.day < 100 := (Date.day_le_31 real).trans_lt (by decide)
  have minute : stamp.minute < 100 := (Nat.mod_lt _ (by decide)).trans (by decide)
  have second : stamp.second < 100 := (Nat.mod_lt _ (by decide)).trans (by decide)
  have week : stamp.weekday < 7 := by
    unfold Stamp.weekday
    omega
  have weekday := nameFor_weekday week
  cases part with
  | year4 | month2 | day2 | hour24Padded | minute2 | second2 => exact computes_part shows rfl rfl
  | year2 =>
    rw [Stamp.shownPart, ← drop_digits]
    exact computes_substr (computes_part shows rfl rfl) 2 2
  | monthName => exact computes_namesBy (computes_part shows rfl rfl) month.1
  | monthAbbr => exact computes_namesBy (computes_part shows rfl rfl) month.2
  | weekdayName => exact computes_namesBy (computes_part shows rfl rfl) weekday.1
  | weekdayAbbr => exact computes_namesBy (computes_part shows rfl rfl) weekday.2
  | month =>
    exact computes_natText (computes_number shows rfl rfl (real.month_le.trans_lt (by decide)))
  | day => exact computes_natText (computes_number shows rfl rfl day)
  | hour24 => exact computes_natText (computes_hour shows)
  | minute => exact computes_natText (computes_number shows rfl rfl minute)
  | second => exact computes_natText (computes_number shows rfl rfl second)
  | hour12Padded =>
    rw [Stamp.shownPart, ← leftpad_hour12]
    exact .call (by decide) (.cons (.text "%02d") (.cons (computes_hour12 shows) .nil)) rfl
  | hour12 => exact computes_natText (computes_hour12 shows)
  | millisecond =>
    have text : (moment.shown "%f").Computes server.display
        (.text (Chars.digits 2 stamp.second ++ '.' :: Chars.digits 3 (stamp.millis % 1000))) :=
      computes_part shows rfl rfl
    exact computes_substr text 3 3
  | meridiemUpper => exact computes_meridiem shows "AM" "PM"
  | meridiemLower => exact computes_meridiem shows "am" "pm"

theorem computes_shownToken (token : DisplayToken) :
    (shownToken moment token).Computes server.display (.text (stamp.shownToken token)) := by
  cases token with
  | literal text => exact .text text
  | part part => exact computes_shownPart shows part

theorem computes_shownTokens {tokens : List DisplayToken} (filled : tokens ≠ []) :
    (Expr.sequence .concat (tokens.map (shownToken moment))).Computes server.display
      (.text (tokens.flatMap stamp.shownToken)) := by
  have each : ∀ tokens : List DisplayToken, List.Forall₂ (Expr.Computes server.display)
      (tokens.map (shownToken moment)) (tokens.map fun token => .text (stamp.shownToken token)) := by
    intro tokens
    induction tokens with
    | nil => exact .nil
    | cons token tokens ih => exact .cons (computes_shownToken shows token) ih
  have concat : ∀ (cs : List Char) (tokens : List DisplayToken),
      (tokens.map fun token => Item.text (stamp.shownToken token)).foldlM
        (server.display.binary .concat) (.text cs) =
          some (.text (cs ++ tokens.flatMap stamp.shownToken)) := by
    intro cs tokens
    induction tokens generalizing cs with
    | nil => exact congrArg (fun cs => some (Item.text cs)) (List.append_nil cs).symm
    | cons token tokens ih =>
      rw [List.map_cons, List.foldlM_cons, List.flatMap_cons, ← List.append_assoc]
      exact ih (cs ++ stamp.shownToken token)
  cases tokens with
  | nil => exact absurd rfl filled
  | cons token tokens => exact .sequence (each (token :: tokens)) (concat _ tokens)

end

theorem computes_shownIn_sqlite (sqlite : server.dialect = .sqlite) {time : Option Stamp}
    (tells : moment.Tells server time) (format : String) :
    (shownIn .sqlite moment format).Computes server.display
      (time.elim .null fun stamp => .text ((displayTokens format).flatMap stamp.shownToken)) := by
  rw [shownIn]
  cases time with
  | none =>
    exact .ite (.isNull tells) (server.display.holds?_bool true) (fun _ => .null)
      fun other => absurd rfl other
  | some stamp =>
    have shows := tells.showsTime sqlite
    refine .ite shows.isNull (server.display.holds?_bool false) (fun taken => ?_) fun _ => ?_
    · cases taken
    · cases tokens : displayTokens format with
      | nil => exact .text ""
      | cons token rest => exact computes_shownTokens shows (List.cons_ne_nil token rest)

theorem computes_shownIn_postgres (postgres : server.dialect = .postgres) {time : Option Stamp}
    (tells : moment.Tells server time) (positive : ∀ stamp ∈ time, 0 < stamp.date.year)
    {format : String} (apart : Apart (displayTokens format)) :
    (shownIn .postgres moment format).Computes server.display
      (time.elim .null fun stamp => .text ((displayTokens format).flatMap stamp.shownToken)) := by
  refine computes_toChar postgres tells ?_
  intro stamp isTime
  exact Stamp.inTemplate?_displayTemplate (positive stamp isTime) apart

end

/--
The template of a display format is split into what was written for its tokens exactly if no two
words of it fuse, and then both engines show the same text.
-/
theorem displayTemplate_read_back_iff (format : String) :
    (readMarks (displayTemplate (displayTokens format)) =
        ((displayTokens format).flatMap DisplayToken.marks).map .ok ↔
      Apart (displayTokens format)) ∧
      ∀ {postgres sqlite : Server} {first second : Moment} {time : Option Stamp},
        postgres.dialect = .postgres → sqlite.dialect = .sqlite → first.Tells postgres time →
        second.Tells sqlite time → (∀ stamp ∈ time, 0 < stamp.date.year) →
        Apart (displayTokens format) →
          ∃ item, (shownIn .postgres first format).Computes postgres.display item ∧
            (shownIn .sqlite second format).Computes sqlite.display item := by
  refine ⟨readMarks_eq_iff _, ?_⟩
  intro postgres sqlite first second time onPostgres onSqlite tells tellsToo positive apart
  exact ⟨_, computes_shownIn_postgres onPostgres tells positive apart,
    computes_shownIn_sqlite onSqlite tellsToo format⟩

def dayColumn : Moment := ⟨.fragment "\"d\"", ⟨"UTC", 0⟩⟩

def marchServer (dialect : Dialect) : Server :=
  .ofDays dialect fun _ =>
    match dialect with
    | .postgres => .other "2024-03-05".toList
    | .sqlite => .text "2024-03-05".toList

theorem dayColumn_tells (dialect : Dialect) :
    dayColumn.Tells (marchServer dialect) (some ⟨⟨2024, 3, 5⟩, 0⟩) := by
  cases dialect with
  | postgres => exact ⟨.other "2024-03-05".toList, .fragment _, rfl⟩
  | sqlite => exact ⟨.text "2024-03-05".toList, .fragment _, rfl⟩

theorem displayTemplate_read_back_iff_march :
    Apart (displayTokens "D [of] MMMM, hh:mmA") ∧
      ∃ item,
        (shownIn .postgres dayColumn "D [of] MMMM, hh:mmA").Computes
          (marchServer .postgres).display item ∧
        (shownIn .sqlite dayColumn "D [of] MMMM, hh:mmA").Computes
          (marchServer .sqlite).display item := by
  have tokens : displayTokens "D [of] MMMM, hh:mmA" =
      [.part .day, .literal " of ", .part .monthName, .literal ", ", .part .hour12Padded,
        .literal ":", .part .minute2, .part .meridiemUpper] := by rfl
  have apart : Apart (displayTokens "D [of] MMMM, hh:mmA") := by
    rw [tokens, Apart]
    decide
  refine ⟨apart, (displayTemplate_read_back_iff _).2 rfl rfl (dayColumn_tells .postgres)
    (dayColumn_tells .sqlite) ?_ apart⟩
  intro stamp same
  cases same
  decide

/-- Two words for the second are read as one for the seconds since midnight. -/
theorem displayTemplate_fuses_seconds :
    displayTokens "ssss" = [.part .second2, .part .second2] ∧
      readMarks (displayTemplate (displayTokens "ssss")) = [.ok (.word "SSSS".toList)] ∧
      Stamp.inTemplate? ⟨⟨2024, 3, 5⟩, 3600⟩ (displayTemplate (displayTokens "ssss")) =
        some "3600".toList ∧
      (displayTokens "ssss").flatMap (Stamp.shownToken ⟨⟨2024, 3, 5⟩, 3600⟩) = "0000".toList := by
  have millis : Stamp.millis ⟨⟨2024, 3, 5⟩, 3600⟩ = 3600000 := by
    change ⌊(3600 : ℚ) * 1000⌋.toNat = 3600000
    norm_num
    rfl
  have tokens : displayTokens "ssss" = [.part .second2, .part .second2] := by rfl
  refine ⟨tokens, by rfl, ?_, ?_⟩
  · have printed : Stamp.inTemplate? ⟨⟨2024, 3, 5⟩, 3600⟩ (displayTemplate (displayTokens "ssss")) =
        some (Nat.toDigits 10 (Stamp.millis ⟨⟨2024, 3, 5⟩, 3600⟩ / 1000) ++ []) := rfl
    rw [printed, millis]
    rfl
  · have shown : (displayTokens "ssss").flatMap (Stamp.shownToken ⟨⟨2024, 3, 5⟩, 3600⟩) =
        Chars.digits 2 (Stamp.millis ⟨⟨2024, 3, 5⟩, 3600⟩ / 1000 % 60) ++
          Chars.digits 2 (Stamp.millis ⟨⟨2024, 3, 5⟩, 3600⟩ / 1000 % 60) := rfl
    rw [shown, millis]
    rfl

end SheetSql
