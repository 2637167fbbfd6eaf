import SheetSql.Number.Double

namespace SheetSql.Double

/-!
The decimal text of a double: the fewest digits that read back as the same number, nearest to it
among those, written without a power of ten.
-/

/-- A finite positive number with the numbers half way to its neighbours, over one denominator. -/
structure Interval where
  low : Nat
  value : Nat
  high : Nat
  den : Nat
  /-- The ends read back as the number itself. -/
  closed : Bool

/--
The reals that round to `significand · 2 ^ exponent`. Below a power of two the neighbour is half
as far as above it.
-/
def interval (significand : Nat) (exponent : Int) : Interval :=
  let scale := pow2 (exponent - 2).toNat
  let below := if significand = pow2 52 ∧ minExponent < exponent then 1 else 2
  { low := (4 * significand - below) * scale
    value := 4 * significand * scale
    high := (4 * significand + 2) * scale
    den := pow2 (2 - exponent).toNat
    closed := significand % 2 == 0 }

def Interval.has (i : Interval) (c : Nat) (e : Int) : Bool :=
  let point := c * pow10 e.toNat * i.den
  let unit := pow10 (-e).toNat
  if i.closed then i.low * unit ≤ point && point ≤ i.high * unit
  else i.low * unit < point && point < i.high * unit

def Interval.places (i : Interval) : Int :=
  let digits (n : Nat) : Int := (Nat.toDigits 10 n).length
  let k := digits i.value - digits i.den
  if i.den * pow10 k.toNat ≤ i.value * pow10 (-k).toNat then k + 1 else k

/--
The best decimal of `n` digits, if one reads back: the nearer of the two grid points around the
number, the upper one when they are equally near.
-/
def Interval.onGrid? (i : Interval) (n : Nat) : Option (Nat × Int) :=
  let e := i.places - n
  let num := i.value * pow10 (-e).toNat
  let den := i.den * pow10 e.toNat
  let c := num / den
  let upper := if c + 1 = pow10 n then (1, e + n) else (c + 1, e)
  match i.has c e, i.has (c + 1) e with
  | false, false => none
  | true, false => some (c, e)
  | false, true => some upper
  | true, true => if 2 * (num % den) < den then some (c, e) else some upper

def Interval.shortest (i : Interval) : Nat × Int :=
  ((List.range' 1 17).findSome? i.onGrid?).getD (0, 0)

def positional (c : Nat) (e : Int) : List Char :=
  let digits := Nat.toDigits 10 c
  if 0 ≤ e then digits ++ List.replicate e.toNat '0'
  else
    let places := (-e).toNat
    let padded := List.replicate (places + 1 - digits.length) '0' ++ digits
    let whole := padded.length - places
    padded.take whole ++ '.' :: padded.drop whole

/-- The text of a number. Whole numbers have no point, and a negative zero keeps its sign. -/
def text : Double → String
  | .nan => "NaN"
  | .infinite false => "inf"
  | .infinite true => "-inf"
  | .finite negative significand exponent =>
    let magnitude :=
      if significand = 0 then ['0']
      else
        let (c, e) := (interval significand exponent).shortest
        positional c e
    String.ofList (if negative then '-' :: magnitude else magnitude)

end SheetSql.Double
