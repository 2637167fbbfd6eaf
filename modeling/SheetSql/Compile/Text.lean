import SheetSql.Coerce.Json
import SheetSql.Compile.Call
import SheetSql.Match.Pattern.Text

namespace SheetSql.Call

/-! Texts. Positions count from one. -/

open Coerce

def concatenate (call : Call) : Except Error Expr := do
  return .sequence .concat (← call.operands.mapM call.toTextOrEmpty)

def add (call : Call) : Except Error Expr := do
  let left := call.operand 0
  let right := call.operand 1
  if left.isTextLike || right.isTextLike then
    return (← call.toTextOrEmpty left) ++ (← call.toTextOrEmpty right)
  else
    return (← call.toNumberOrZero left) + (← call.toNumberOrZero right)

def textFunction (call : Call) (function : String) : Except Error Expr := do
  return .call function [← call.text 0]

def len (call : Call) : Except Error Expr := do
  return .call "LENGTH" [← call.textOrEmpty 0]

/-- The argument if it is a text, and else the empty text. -/
def t (call : Call) : Except Error Expr :=
  let operand := call.operand 0
  match operand.kind with
  | .text | .unknown => call.toText operand
  | .json => if operand.isTextLike then call.toText operand else .ok (.text "")
  | _ => .ok (.text "")

def positionFrom (dialect : Dialect) (needle haystack start : Expr) : Expr :=
  let within := dialect.position (.call "SUBSTR" [haystack, start]) needle
  .ite (within.eq 0) 0 (within + start - 1)

def positionOf (call : Call) (fold : Expr → Expr) : Except Error Expr := do
  let needle := fold (← call.textOrEmpty 0)
  let haystack := fold (← call.textOrEmpty 1)
  if call.has 2 then
    return positionFrom call.dialect needle haystack (← call.position 2)
  else return call.dialect.position haystack needle

def find (call : Call) : Except Error Expr := call.positionOf id

def search (call : Call) : Except Error Expr := do
  return (← call.positionOf fun e => .call "LOWER" [e]).nullIf 0

def mid (call : Call) : Except Error Expr := do
  return .call "SUBSTR" [← call.text 0, ← call.position 1, ← call.length 2]

def left (call : Call) : Except Error Expr := do
  let count ← call.lengthOrOne 1
  return .call "SUBSTR" [← call.text 0, 1, count]

/-- The end of a text. On SQLite a negative position counts from the end, except for zero. -/
def rightOf (dialect : Dialect) (t count : Expr) : Expr :=
  match dialect with
  | .postgres => .call "RIGHT" [t, count]
  | .sqlite =>
    .ite (count.eq 0) (.call "SUBSTR" [t, 1, 0]) (.call "SUBSTR" [t, - count])

def right (call : Call) : Except Error Expr := do
  return rightOf call.dialect (← call.text 0) (← call.lengthOrOne 1)

def splice (t start count new : Expr) : Expr :=
  .chain .concat
    [.call "SUBSTR" [t, 1, start - 1], new, .call "SUBSTR" [t, start + count]]

def replace (call : Call) : Except Error Expr := do
  let t ← call.textOrEmpty 0
  let start ← call.position 1
  let count ← call.length 2
  return splice t start count (← call.textOrEmpty 3)

def substituteAll (call : Call) : Except Error Expr := do
  return .call "REPLACE" [← call.text 0, ← call.textOrEmpty 1, ← call.textOrEmpty 2]

/-- The text split at every `old` and joined again with `new` in the place of one of them. -/
def substitutePostgres (nth : Nat) (t old new : Expr) : Expr :=
  let parts := Expr.call "string_to_array" [t, old]
  let count := (Expr.call "array_length" [parts, 1]).orElse 0
  .caseWhen [⟨(old.eq (.text "")).or (count.le (.int nth)), t⟩]
    (some
      (.chain .concat
        [.call "array_to_string" [parts.slice (some 1) (some (.int nth)), old],
         new,
         .call "array_to_string" [parts.slice (some (.int (nth + 1))) none, old]]))

/--
The text cut at one `old` and put together again around `new`. A table of the occurrences grows
row by row: each row has the number of an occurrence and its position, which is zero after the
last one.
-/
def substituteSqlite (nth : Nat) (t old new : Expr) : Expr :=
  let k := Expr.column none "__k"
  let p := Expr.column none "__p"
  let after := p + .call "LENGTH" [old]
  let next := Expr.call "INSTR" [.call "SUBSTR" [t, after], old]
  let occurrences : Recursion :=
    { name := "__occ"
      columns := ["__k", "__p"]
      anchor := .of [⟨1, none⟩, ⟨.call "INSTR" [t, old], none⟩]
      step :=
        { Select.of [⟨k + 1, none⟩, ⟨.ite (next.eq 0) 0 (after + next - 1), none⟩] with
          source := some (.table "__occ")
          filter := some ((p.gt 0).and (k.lt (.int nth))) } }
  let spliced :=
    Expr.subquery
      { Select.value
          (.chain .concat
            [.call "SUBSTR" [t, 1, p - 1], new, .call "SUBSTR" [t, after]]) with
        recursion := some occurrences
        source := some (.table "__occ")
        filter := some ((k.eq (.int nth)).and (p.gt 0)) }
  .ite (old.eq (.text "")) t (spliced.orElse t)

def substituteNth (call : Call) : Except Error Expr := do
  let nth ← call.occurrence 3
  match call.dialect with
  | .postgres =>
    return substitutePostgres nth (← call.textOrEmpty 0) (← call.textOrEmpty 1)
      (← call.textOrEmpty 2)
  | .sqlite =>
    call.needSubquery
    return substituteSqlite nth (← call.textOrEmpty 0) (← call.textOrEmpty 1)
      (← call.textOrEmpty 2)

def regexpReplace (call : Call) : Except Error Expr := do
  let pattern ← call.textLiteral 1
  unless Pattern.isText pattern do
    throw (.invalidFormat pattern .notRegex)
  return .call "REGEXP_REPLACE"
    [← call.textOrEmpty 0, .text pattern, ← call.textOrEmpty 2, .text "g"]

def maxRepeatLength : Expr := .int 10000000

def repeatCap (dialect : Dialect) (t : Expr) : Expr :=
  maxRepeatLength / dialect.greatest [.call "LENGTH" [t], 1]

/--
A text repeated. On SQLite a run of zeros comes out of a blob of zero bytes in hexadecimal, after
its `X` and quote, and the text takes the place of each.
-/
def repeatOf (dialect : Dialect) (t count : Expr) : Expr :=
  let n := dialect.least [count, repeatCap dialect t]
  match dialect with
  | .postgres => .call "REPEAT" [t, n]
  | .sqlite =>
    let blob := Expr.call "QUOTE" [.call "ZEROBLOB" [(n + 1) / 2]]
    .call "REPLACE" [.call "SUBSTR" [blob, 3, n], .text "0", t]

def rept (call : Call) : Except Error Expr := do
  return repeatOf call.dialect (← call.textOrEmpty 0) (← call.length 1)

def urlPlain : Regex :=
  .start ++
    .set (.of
      ([.span 'A' 'Z', .span 'a' 'z', .span '0' '9'] ++ ("_.!~*\x27()-".toList.map .one))) ++
    .finish

def urlEncoded (t : Expr) : Expr :=
  let c := Expr.column none "__c"
  let hex := Expr.call "encode" [.call "convert_to" [c, .text "UTF8"], .text "hex"]
  let twoDigits := Regex.capture (.anyChar ++ .anyChar)
  let escaped :=
    Expr.call "upper"
      [.call "regexp_replace" [hex, .text twoDigits.text, .text "%\\1", .text "g"]]
  let encoded := Expr.ite (regexMatch c urlPlain) c escaped
  let joined :=
    Expr.subquery
      { Select.value (.aggregate "string_agg" [encoded, .text ""] [.column none "__n"]) with
        source := some
          (.numberedRows (.call "regexp_split_to_table" [t, .text ""]) "__el" ["__c", "__n"]) }
  joined.orElse (.text "")

def encodeUrl (call : Call) : Except Error Expr := do
  call.needSubquery
  return urlEncoded (← call.textOrEmpty 0)

end SheetSql.Call
