namespace SheetSql

/-! Decimal numbers as they are written: digits, a point and a power of ten. -/

/-- The number `± digits · 10 ^ exponent`. -/
structure Decimal where
  negative : Bool
  digits : Nat
  exponent : Int
  deriving DecidableEq, Repr, Inhabited

namespace Decimal

def natOf (cs : List Char) : Nat :=
  cs.foldl (fun n c => 10 * n + (c.toNat - '0'.toNat)) 0

def isDigits (cs : List Char) : Bool :=
  cs.all Char.isDigit

def readSign : List Char → Bool × List Char
  | '-' :: rest => (true, rest)
  | '+' :: rest => (false, rest)
  | rest => (false, rest)

/-- The power of ten after the mantissa: nothing, or `e` or `E`, a sign and digits. -/
def readExponent? : List Char → Option Int
  | [] => some 0
  | c :: rest =>
    if c = 'e' ∨ c = 'E' then
      let (negative, digits) := readSign rest
      if digits.isEmpty || !isDigits digits then none
      else if negative then some (-(natOf digits)) else some (natOf digits)
    else none

/--
An optional sign, digits with at most one point among or around them and at least one digit,
and an optional power of ten.
-/
def read? (cs : List Char) : Option Decimal :=
  let (negative, body) := readSign cs
  let isMantissa := fun c : Char => c.isDigit || c == '.'
  let mantissa := body.takeWhile isMantissa
  let whole := mantissa.takeWhile Char.isDigit
  let fraction := (mantissa.dropWhile Char.isDigit).drop 1
  if (whole.isEmpty && fraction.isEmpty) || !isDigits fraction then none
  else
    (readExponent? (body.dropWhile isMantissa)).map fun exponent =>
      ⟨negative, natOf (whole ++ fraction), exponent - fraction.length⟩

end Decimal

end SheetSql
