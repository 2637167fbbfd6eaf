import SheetSql.Format.Scan
import SheetSql.Match.Regex
import SheetSql.Text.Blank
import SheetSql.Text.Letter

namespace SheetSql.Format

/-!
Parse formats with the words of Postgres. The regular expression of a format accepts the texts
that Postgres can read with it, the days of short months apart.
-/

open Regex

structure Token where
  word : String
  pattern : Regex
  slot : Option Slot
  part : Option DatePart
  isName : Bool
  isPadded : Bool
  deriving DecidableEq, Repr, Inhabited

namespace Token

def number (word : String) (pattern : Regex) (slot : Option Slot) (part : Option DatePart) :
    Token :=
  ⟨word, pattern, slot, part, false, false⟩

def name (word : String) (names : List String) (slot : Slot) (part : Option DatePart)
    (isPadded : Bool) : Token :=
  ⟨word, altAll (names.map anyCase), some slot, part, true, isPadded⟩

end Token

def digits (least most : Nat) : Regex := digit.between least most

def twelve : Regex := (char '0').opt ++ span '1' '9' <|> char '1' ++ span '0' '2'

def sixty : Regex := (span '0' '5').opt ++ digit

def secondOfDay : Regex :=
  altAll
    [(span '0' '7').opt ++ digits 1 4, char '8' ++ span '0' '5' ++ digit.times 3,
     literal "86" ++ span '0' '3' ++ digit ++ digit]

def dayOfYear : Regex :=
  altAll
    [(char '0').between 0 2 ++ span '1' '9', (char '0').opt ++ span '1' '9' ++ digit,
     oneOf "12" ++ digit ++ digit, char '3' ++ span '0' '5' ++ digit,
     literal "36" ++ span '0' '5']

def dayOfMonth : Regex :=
  altAll
    [(char '0').opt ++ span '1' '9', oneOf "12" ++ digit, char '3' ++ oneOf "01"]

def hourOfDay : Regex :=
  (oneOf "01").opt ++ digit <|> char '2' ++ span '0' '3'

def weekOfYear : Regex :=
  altAll
    [(char '0').opt ++ span '1' '9', span '1' '4' ++ digit, char '5' ++ span '0' '3']

def meridiem : Regex := oneOf "AaPp" ++ oneOf "Mm"

def dottedMeridiem : Regex := oneOf "AaPp" ++ char '.' ++ oneOf "Mm" ++ char '.'

/-- The words, each before those that it starts with. -/
def tokens : List Token :=
  [.number "SSSSS" secondOfDay (some .secondOfDay) none,
   .number "Y,YYY" (digit ++ char ',' ++ digit.times 3) (some .year) none,
   .name "MONTH" monthNames .month (some .month) true,
   .number "A.M." dottedMeridiem (some .meridiem) none,
   .number "P.M." dottedMeridiem (some .meridiem) none,
   .number "HH24" hourOfDay (some .hour) (some .hour),
   .number "HH12" twelve (some .hour) none,
   .number "SSSS" secondOfDay (some .secondOfDay) none,
   .number "YYYY" (digit.times 4) (some .year) (some .year),
   .number "DDD" dayOfYear (some .day) none,
   .name "DAY" dayNames .weekday none true,
   .number "FF1" digit none none,
   .number "FF2" (digits 1 2) none none,
   .number "FF3" (digits 1 3) none none,
   .number "FF4" (digits 1 4) none none,
   .number "FF5" (digits 1 5) none none,
   .number "FF6" (digits 1 6) none none,
   .name "MON" monthAbbreviations .month (some .month) false,
   .number "TZH" (oneOf "+-" ++ digit.times 2) (some .offset) none,
   .number "TZM" (digit.times 2) none none,
   .number "YYY" (digit.times 3) (some .year) none,
   .number "AM" meridiem (some .meridiem) none,
   .number "PM" meridiem (some .meridiem) none,
   .number "CC" (digits 1 2) none none,
   .number "DD" dayOfMonth (some .day) (some .day),
   .name "DY" dayAbbreviations .weekday none false,
   .number "HH" twelve (some .hour) none,
   .number "MI" sixty (some .minute) (some .minute),
   .number "MM" twelve (some .month) (some .month),
   .number "MS" (digits 1 3) none (some .millisecond),
   .number "OF" (oneOf "+-" ++ digit.times 2 ++ (together ((char ':').opt ++ digit.times 2)).opt)
     (some .offset) none,
   .number "SS" sixty (some .second) (some .second),
   .number "US" (digits 1 6) none none,
   .number "WW" weekOfYear none none,
   .number "YY" (digit.times 2) (some .year) none,
   .number "D" (span '1' '7') (some .weekday) none,
   .number "J" (digits 1 7) none none,
   .number "Q" (span '1' '4') none none,
   .number "W" (span '1' '5') none none,
   .number "Y" digit (some .year) none]

def modifiers : List String := ["FM", "FX", "TM", "TH"]

/-- The words of ISO weeks, which Postgres does not mix with calendar dates. -/
def isoWords : List String := ["IYYY", "IDDD", "IYY", "IW", "IY", "ID"]

/-- Words that Postgres can write and not read. -/
def unreadable? (cs : List Char) : Option FormatFault :=
  let starts := fun word : String => Text.leads word.toList cs
  if starts "TZH" || starts "TZM" then none
  else if starts "TZ" then some .zoneName
  else if isoWords.any starts then some .isoWeek
  else none

inductive Piece where
  | literal (c : Char)
  | blank
  | field (token : Token)
  deriving DecidableEq, Repr, Inhabited

def readPiece : List Char → Except FormatFault (Option Piece × Nat)
  | [] => .ok (none, 0)
  | c :: rest =>
    let starts := fun word : String => Text.leads word.toList (c :: rest)
    match modifiers.find? starts with
    | some word => .ok (none, word.length - 1)
    | none =>
      match unreadable? (c :: rest) with
      | some fault => .error fault
      | none =>
        match tokens.find? fun token => starts token.word with
        | some token => .ok (some (.field token), token.word.length - 1)
        | none => .ok (some (if Text.isBlank c then .blank else .literal c), 0)

namespace Piece

def slot? : Piece → Option Slot
  | .field token => token.slot
  | _ => none

def regex : Piece → Regex
  | .literal c => .char c
  | .blank => .blank
  | .field token =>
    let value := Regex.group token.part.isSome token.pattern
    if token.isPadded then value ++ Regex.blank.many else value

end Piece

structure Template where
  pieces : List Piece
  deriving DecidableEq, Repr, Inhabited

structure Capture where
  part : DatePart
  index : Nat
  isName : Bool
  deriving DecidableEq, Repr, Inhabited

def capturesFrom (index : Nat) : List Piece → List Capture
  | [] => []
  | .field token :: rest =>
    match token.part with
    | some part => ⟨part, index, token.isName⟩ :: capturesFrom (index + 1) rest
    | none => capturesFrom index rest
  | _ :: rest => capturesFrom index rest

namespace Template

def read (format : String) : Except FormatFault Template :=
  if (Text.trim format.toList).isEmpty then .error .empty
  else
    (distinct Piece.slot? .slotTwice []
      (scan readPiece .literal (.plain 0) format.toList)).map Template.mk

def regex (template : Template) : Regex :=
  .seq .start (template.pieces.foldr (fun piece rest => .seq piece.regex rest) .finish)

def captures (template : Template) : List Capture :=
  capturesFrom 1 template.pieces

def capture? (template : Template) (part : DatePart) : Option Capture :=
  template.captures.find? (·.part == part)

def isZoned (template : Template) : Bool :=
  template.pieces.any fun
    | .field token => token.word == "TZH" || token.word == "TZM" || token.word == "OF"
    | _ => false

end Template

end SheetSql.Format
