import SheetSql.Match.CharSet

namespace SheetSql

/-! Regular expressions as trees, and the text in which Postgres reads them. -/

inductive Regex where
  | empty
  | start
  | finish
  | char (c : Char)
  | anyChar
  | digit
  | blank
  | set (members : CharSet)
  | seq (first second : Regex)
  | alt (left right : Regex)
  | group (captures : Bool) (inner : Regex)
  /-- At least `least` times and, if there is a bound, at most `most` times. -/
  | rep (inner : Regex) (least : Nat) (most : Option Nat)
  deriving DecidableEq, Repr, Inhabited

namespace Regex

instance : Append Regex := ⟨.seq⟩

instance : OrElse Regex := ⟨fun left right => .alt left (right ())⟩

def capture (inner : Regex) : Regex := .group true inner

def together (inner : Regex) : Regex := .group false inner

def opt (inner : Regex) : Regex := .rep inner 0 (some 1)

def many (inner : Regex) : Regex := .rep inner 0 none

def times (inner : Regex) (n : Nat) : Regex := .rep inner n (some n)

def between (inner : Regex) (least most : Nat) : Regex := .rep inner least (some most)

def oneOf (members : String) : Regex := .set (.ofText members)

def span (first last : Char) : Regex := .set (.of [.span first last])

def seqAll : List Regex → Regex
  | [] => .empty
  | [only] => only
  | first :: rest => .seq first (seqAll rest)

def altAll : List Regex → Regex
  | [] => .empty
  | [only] => only
  | first :: rest => .alt first (altAll rest)

def literal (s : String) : Regex := seqAll (s.toList.map .char)

def anyCase (word : String) : Regex :=
  seqAll (word.toList.map fun c => .set (.of [.one c.toUpper, .one c.toLower]))

def isMeta (c : Char) : Bool :=
  ".^$|?*+()[]\x7b\x7d\\".toList.contains c

def countText : Nat → Option Nat → List Char
  | 0, some 1 => ['?']
  | 0, none => ['*']
  | 1, none => ['+']
  | least, none => '\x7b' :: Nat.toDigits 10 least ++ [',', '\x7d']
  | least, some most =>
    if least = most then '\x7b' :: Nat.toDigits 10 least ++ ['\x7d']
    else '\x7b' :: Nat.toDigits 10 least ++ ',' :: Nat.toDigits 10 most ++ ['\x7d']

def chars : Regex → List Char
  | .empty => []
  | .start => ['^']
  | .finish => ['$']
  | .char c => if isMeta c then ['\\', c] else [c]
  | .anyChar => ['.']
  | .digit => ['\\', 'd']
  | .blank => ['\\', 's']
  | .set members => members.text
  | .seq first second => first.chars ++ second.chars
  | .alt left right => left.chars ++ '|' :: right.chars
  | .group true inner => '(' :: inner.chars ++ [')']
  | .group false inner => '(' :: '?' :: ':' :: inner.chars ++ [')']
  | .rep inner least most => inner.chars ++ countText least most

def text (r : Regex) : String := String.ofList r.chars

end Regex

end SheetSql
