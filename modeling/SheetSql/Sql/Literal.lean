import SheetSql.Number.Decimal
import SheetSql.Sql.Bracket
import SheetSql.Text.Letter

namespace SheetSql.Sql

/-!
The shape of SQL text. An expression that arrives as text and without a description is judged by
what kind of constant or column it spells.
-/

open Text

def quoteText (content : String) : String := enclose singleQuote content

def quoteName (name : String) : String := enclose doubleQuote name

def textLiteral? (sql : String) : Option String :=
  match bare sql.toList with
  | [] => none
  | c :: rest =>
    if c = singleQuote then
      match readQuoted singleQuote rest with
      | some (content, []) => some (String.ofList content)
      | _ => none
    else none

def numberLiteral? (sql : String) : Option Decimal :=
  Decimal.read? (bare sql.toList)

def isNullLiteral (sql : String) : Bool :=
  sameLetters (bare sql.toList) "NULL".toList

def boolLiteral? (sql : String) : Option Bool :=
  let word := bare sql.toList
  if sameLetters word "TRUE".toList then some true
  else if sameLetters word "FALSE".toList then some false
  else none

structure Reference where
  qualifier : Option String
  name : String
  deriving DecidableEq, Repr, Inhabited

def readName : List Char → Option (String × List Char)
  | [] => none
  | q :: rest =>
    if q = doubleQuote ∨ q = backQuote then
      (readQuoted q rest).map fun found => (String.ofList found.1, found.2)
    else none

def reference? (sql : String) : Option Reference :=
  match readName (bare sql.toList) with
  | some (name, []) => some ⟨none, name⟩
  | some (qualifier, '.' :: rest) =>
    match readName rest with
    | some (name, []) => some ⟨some qualifier, name⟩
    | _ => none
  | _ => none

def isWordChar (c : Char) : Bool :=
  c.isAlphanum || c == '_'

inductive ChainState where
  | start
  | word
  | quoted (q : Char)
  /-- After a closing quote, which may turn out to be one of two. -/
  | closed (q : Char)
  deriving DecidableEq, Repr

/--
Whether a text is a chain of words and quoted tokens with points between, perhaps with arguments
in brackets at the end.
-/
def isChain : ChainState → List Char → Bool
  | .start, [] => false
  | .start, c :: rest =>
    if isQuote c then isChain (.quoted c) rest
    else isWordChar c && isChain .word rest
  | .quoted _, [] => false
  | .quoted q, c :: rest => isChain (if c = q then .closed q else .quoted q) rest
  | .closed _, [] => true
  | .closed q, c :: rest =>
    if c = q then isChain (.quoted q) rest
    else if c = '.' then isChain .start rest
    else c == '(' && closesAtEnd rest
  | .word, [] => true
  | .word, c :: rest =>
    if isWordChar c then isChain .word rest
    else if c = '.' then isChain .start rest
    else c == '(' && closesAtEnd rest

/--
Whether a text can be an operand as it stands: a group in brackets, a number without a sign, or
a chain of names. A number with a sign is none, since two minus signs in a row open a comment.
-/
def isAtomic (sql : String) : Bool :=
  match trim sql.toList with
  | [] => false
  | '(' :: rest => closesAtEnd rest
  | c :: rest =>
    ((Decimal.read? (c :: rest)).isSome && c != '-' && c != '+') ||
      isChain .start (c :: rest)

end SheetSql.Sql
