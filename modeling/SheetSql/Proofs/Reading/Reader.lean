import SheetSql.Proofs.Reading.Token

namespace SheetSql.Reading

/-! A reader of printed PostgreSQL expressions. -/

open Text Sql

abbrev Reader := List Char → Option (Expr × List Char)

def isDigits (cs : List Char) : Bool := !cs.isEmpty && cs.all Char.isDigit

def isUnsigned (digits : String) : Bool :=
  isDigits (digits.toList.takeWhile Char.isDigit) &&
    match digits.toList.dropWhile Char.isDigit with
    | [] => true
    | '.' :: fraction => isDigits fraction
    | _ => false

def readItems (read : Reader) (separator close : String) :
    Nat → List Char → Option (List Expr × List Char)
  | 0, _ => none
  | fuel + 1, cs => do
      let (item, cs) ← read cs
      match after? separator cs with
      | some cs => do
          let (items, cs) ← readItems read separator close fuel cs
          return (item :: items, cs)
      | none => return ([item], ← after? close cs)

def readList (read : Reader) (close : String) (cs : List Char) :
    Option (List Expr × List Char) :=
  match after? close cs with
  | some cs => some ([], cs)
  | none => readItems read ", " close cs.length cs

inductive Joint where
  | operator (op : BinOp)
  | nullTest (negated : Bool)
  | member (negated : Bool)
  | zone
  | index
  deriving DecidableEq

def Joint.text : Joint → String
  | .operator op => op.symbol
  | .nullTest negated => if negated then " IS NOT NULL)" else " IS NULL)"
  | .member negated => if negated then " NOT IN (" else " IN ("
  | .zone => " AT TIME ZONE "
  | .index => ")["

def binOps : List BinOp :=
  [.add, .sub, .mul, .div, .mod, .eq, .ne, .lt, .le, .gt, .ge, .and, .or, .concat, .regexMatch,
    .glob, .jsonGet, .jsonPath]

def joints : List Joint :=
  binOps.map .operator ++
    [.nullTest false, .nullTest true, .member false, .member true, .zone, .index]

def readBound (read : Reader) (close : String) (cs : List Char) :
    Option (Option Expr × List Char) :=
  match after? close cs with
  | some cs => some (none, cs)
  | none => do
      let (e, cs) ← read cs
      return (some e, ← after? close cs)

def readIndex (read : Reader) (array : Expr) (cs : List Char) : Option (Expr × List Char) :=
  match after? ":" cs with
  | some cs => do
      let (upper, cs) ← readBound read "]" cs
      return (.slice array none upper, cs)
  | none => do
      let (first, cs) ← read cs
      match after? "]" cs with
      | some cs => return (.subscript array first, cs)
      | none => do
          let cs ← after? ":" cs
          let (upper, cs) ← readBound read "]" cs
          return (.slice array (some first) upper, cs)

/-- Two operands of an operator are no chain. -/
def operation (op : BinOp) (first : Expr) : List Expr → Expr
  | [second] => .binary first op second
  | items => .chain op (first :: items)

def readJoint (read : Reader) (first : Expr) (cs : List Char) :
    Joint → Option (Expr × List Char)
  | .operator op => do
      let (items, cs) ← readItems read op.symbol ")" cs.length cs
      return (operation op first items, cs)
  | .nullTest negated => some (.nullTest first negated, cs)
  | .member negated => do
      let (list, cs) ← readList read "))" cs
      return (.member first list negated, cs)
  | .zone => do
      let (zone, cs) ← read cs
      return (.atTimeZone first zone, ← after? ")" cs)
  | .index => readIndex read first cs

def readOperation (read : Reader) (cs : List Char) : Option (Expr × List Char) :=
  match firstOf? [UnOp.not, UnOp.neg] UnOp.symbol cs with
  | some (op, cs) => do
      let (operand, cs) ← read cs
      return (.unary op operand, ← after? ")" cs)
  | none => do
      let (first, cs) ← read cs
      let (joint, cs) ← firstOf? joints Joint.text cs
      readJoint read first cs joint

def sqlTypes : List SqlType :=
  [.double, .numeric, .integer, .text, .timestamp, .timestampTz, .date, .jsonb]

def readApplied (read : Reader) (word : String) (cs : List Char) :
    Option (Expr × List Char) :=
  if word = "CAST" then do
    let (operand, cs) ← read cs
    let cs ← after? " AS " cs
    let (type, cs) ← firstOf? sqlTypes (fun type => type.name .postgres ++ ")") cs
    return (.cast operand type, cs)
  else if word = "EXTRACT" then do
    let (operand, rest) ← (after? " FROM " (afterWord cs)).bind read
    return (.extract (String.ofList (wordOf cs)) operand, ← after? ")" rest)
  else do
    let (args, cs) ← readList read ")" cs
    return (.call word args, cs)

def readBranches (read : Reader) : Nat → List Char → Option (List Branch × List Char)
  | 0, _ => none
  | fuel + 1, cs =>
    match after? " WHEN " cs with
    | none => some ([], cs)
    | some cs => do
        let (condition, cs) ← read cs
        let (value, cs) ← (after? " THEN " cs).bind read
        let (branches, cs) ← readBranches read fuel cs
        return (⟨condition, value⟩ :: branches, cs)

def readElse (read : Reader) (cs : List Char) : Option (Option Expr × List Char) :=
  match after? " ELSE " cs with
  | none => some (none, cs)
  | some cs => do
      let (e, cs) ← read cs
      return (some e, cs)

def readClauses (read : Reader) (subject : Option Expr) (cs : List Char) :
    Option (Expr × List Char) := do
  let (branches, cs) ← readBranches read cs.length cs
  let (otherwise, cs) ← readElse read cs
  return (.case subject branches otherwise, ← after? " END" cs)

def clauseWords : List String := ["WHEN", "ELSE", "END"]

/-- A `CASE` has a subject unless one of its own words comes first. -/
def readCase (read : Reader) (cs : List Char) : Option (Expr × List Char) := do
  let inner ← after? " " cs
  if String.ofList (bareWord inner) ∈ clauseWords then readClauses read none cs
  else do
    let (subject, cs) ← read inner
    readClauses read (some subject) cs

def withFraction (whole : String) : List Char → String × List Char
  | '.' :: cs => (whole ++ "." ++ String.ofList (wordOf cs), afterWord cs)
  | cs => (whole, cs)

def readNumber (whole : String) (cs : List Char) : Option (Expr × List Char) :=
  let (digits, rest) := withFraction whole cs
  if isUnsigned digits then some (.number digits, rest) else none

def readBare (read : Reader) (word : String) (cs : List Char) :
    Option (Expr × List Char) :=
  if word = "NULL" then some (.null, cs)
  else if word = "TRUE" then some (.bool true, cs)
  else if word = "FALSE" then some (.bool false, cs)
  else if word = "CASE" then readCase read cs
  else readNumber word cs

def readWord (read : Reader) (cs : List Char) : Option (Expr × List Char) :=
  match afterWord cs with
  | '(' :: rest => readApplied read (String.ofList (wordOf cs)) rest
  | rest => readBare read (String.ofList (wordOf cs)) rest

def readColumn (cs : List Char) : Option (Expr × List Char) := do
  let (first, cs) ← readName cs
  match cs with
  | '.' :: cs => do
      let (name, cs) ← readName cs
      return (.column (some first) name, cs)
  | cs => return (.column none first, cs)

def readLayer (read : Reader) : Reader
  | [] => none
  | c :: cs =>
    if c = singleQuote then do
      let (content, cs) ← readQuoted singleQuote cs
      return (.text (String.ofList content), cs)
    else if c = doubleQuote then readColumn (c :: cs)
    else if c = '(' then readOperation read cs
    else readWord read (c :: cs)

/-- Reads an expression with at most `fuel` layers. -/
def readExpr : Nat → Reader
  | 0 => fun _ => none
  | fuel + 1 => readLayer (readExpr fuel)

end SheetSql.Reading
