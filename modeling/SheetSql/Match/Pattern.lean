import SheetSql.Match.Property

namespace SheetSql

/-!
Regular expressions as someone writes them. The trees keep what decides whether an expression
can be used: how deep it is nested, and whether it matches by the character or by the byte.
-/

inductive ClassSet where
  | empty
  | char (c : Char)
  | span (first last : Char)
  /-- A class that has a name of its own, such as `\d` or `[:alpha:]`, or its complement. -/
  | named (complement : Bool)
  | property (asked : Property)
  | nested (complement : Bool) (inner : ClassSet)
  | union (members : List ClassSet)
  /-- Two sets with a sign of intersection or difference between them. -/
  | combined (left right : ClassSet)
  deriving Repr, Inhabited

namespace ClassSet

def ofMembers : List ClassSet → ClassSet
  | [] => .empty
  | [only] => only
  | members => .union members

mutual

def nesting : ClassSet → Nat
  | .empty | .char _ | .span _ _ | .named _ | .property _ => 0
  | .nested _ inner => inner.nesting + 1
  | .union members => deepest members + 1
  | .combined left right => max left.nesting right.nesting + 1

def deepest : List ClassSet → Nat
  | [] => 0
  | first :: rest => max first.nesting (deepest rest)

end

mutual

def isKnown : ClassSet → Bool
  | .empty | .char _ | .span _ _ | .named _ => true
  | .property asked => asked.isKnown
  | .nested _ inner => inner.isKnown
  | .union members => allKnown members
  | .combined left right => left.isKnown && right.isKnown

def allKnown : List ClassSet → Bool
  | [] => true
  | first :: rest => first.isKnown && allKnown rest

end

mutual

/-- Whether a class holds ASCII characters only, because it names no other and has no
complement in it. -/
def isAscii : ClassSet → Bool
  | .empty => true
  | .char c => c.toNat < 128
  | .span first last => first.toNat < 128 && last.toNat < 128
  | .named complement => !complement
  | .property _ => false
  | .nested complement inner => !complement && inner.isAscii
  | .union members => allAscii members
  | .combined left right => left.isAscii && right.isAscii

def allAscii : List ClassSet → Bool
  | [] => true
  | first :: rest => first.isAscii && allAscii rest

end

end ClassSet

structure PatternFlags where
  /-- Blanks and comments count for nothing. -/
  verbose : Option Bool
  /-- Classes are those of characters, not of bytes. -/
  unicode : Option Bool
  deriving DecidableEq, Repr, Inhabited

inductive Pattern where
  | empty
  | flags (given : PatternFlags)
  | char (c : Char)
  /-- A character that is written as the number of a byte. -/
  | byte (c : Char)
  | anyChar
  | assertion
  | named (complement : Bool)
  | property (asked : Property)
  | set (complement : Bool) (members : ClassSet)
  /-- At least `least` times and, if there is a bound, at most `most` times. -/
  | rep (inner : Pattern) (least : Nat) (most : Option Nat)
  | group (given : PatternFlags) (inner : Pattern)
  | seq (parts : List Pattern)
  | alt (branches : List Pattern)
  deriving Repr, Inhabited

namespace Pattern

def ofParts : List Pattern → Pattern
  | [] => .empty
  | [only] => only
  | parts => .seq parts

def ofBranches : List Pattern → Pattern
  | [] => .empty
  | [only] => only
  | branches => .alt branches

def isRepeatable : Pattern → Bool
  | .empty | .flags _ => false
  | _ => true

mutual

def nesting : Pattern → Nat
  | .empty | .flags _ | .char _ | .byte _ | .anyChar | .assertion | .named _ | .property _ => 0
  | .set _ members => members.nesting + 1
  | .rep inner _ _ => inner.nesting + 1
  | .group _ inner => inner.nesting + 1
  | .seq parts => deepest parts + 1
  | .alt branches => deepest branches + 1

def deepest : List Pattern → Nat
  | [] => 0
  | first :: rest => max first.nesting (deepest rest)

end

mutual

/--
The flag `unicode` after a pattern before which it is as given, or nothing if the pattern cannot
be used. By the character, each property that is asked for has to be there. By the byte, a match
has to be a text still, so that no class may go beyond ASCII.
-/
def unicodeAfter? (unicode : Bool) : Pattern → Option Bool
  | .empty | .char _ | .assertion => some unicode
  | .flags given => some (given.unicode.getD unicode)
  | .byte c => if unicode || c.toNat < 128 then some unicode else none
  | .anyChar => if unicode then some unicode else none
  | .named complement => if unicode || !complement then some unicode else none
  | .property asked => if unicode && asked.isKnown then some unicode else none
  | .set complement members =>
    let fits := if unicode then members.isKnown else !complement && members.isAscii
    if fits then some unicode else none
  | .rep inner _ _ => inner.unicodeAfter? unicode
  | .group given inner =>
    (inner.unicodeAfter? (given.unicode.getD unicode)).map fun _ => unicode
  | .seq parts => unicodeAfterAll? unicode parts
  | .alt branches => unicodeAfterAll? unicode branches

def unicodeAfterAll? (unicode : Bool) : List Pattern → Option Bool
  | [] => some unicode
  | first :: rest => (first.unicodeAfter? unicode).bind fun after => unicodeAfterAll? after rest

end

def nestingLimit : Nat := 250

def isUsable (pattern : Pattern) : Bool :=
  pattern.nesting ≤ nestingLimit && (pattern.unicodeAfter? true).isSome

end Pattern

end SheetSql
