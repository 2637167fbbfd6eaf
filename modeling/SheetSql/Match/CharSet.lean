namespace SheetSql

/-! Sets of characters, as patterns write them between square brackets. -/

inductive CharRange where
  | one (c : Char)
  | span (first last : Char)
  deriving DecidableEq, Repr, Inhabited

namespace CharRange

def has : CharRange → Char → Bool
  | .one c, x => x == c
  | .span first last, x => first ≤ x && x ≤ last

def text : CharRange → List Char
  | .one c => [c]
  | .span first last => [first, '-', last]

end CharRange

structure CharSet where
  isComplement : Bool
  ranges : List CharRange
  deriving DecidableEq, Repr, Inhabited

namespace CharSet

def of (ranges : List CharRange) : CharSet := ⟨false, ranges⟩

def except (ranges : List CharRange) : CharSet := ⟨true, ranges⟩

def ofText (members : String) : CharSet := of (members.toList.map .one)

def digits : CharSet := of [.span '0' '9']

def has (set : CharSet) (c : Char) : Bool :=
  set.ranges.any (·.has c) != set.isComplement

def text (set : CharSet) : List Char :=
  '[' :: (if set.isComplement then ['^'] else []) ++ set.ranges.flatMap (·.text) ++ [']']

end CharSet

end SheetSql
