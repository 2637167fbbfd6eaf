import SheetSql.Number.Decimal
import SheetSql.Number.Power

namespace SheetSql

/-! Double-precision numbers, exactly: every finite one is a whole number times a power of two. -/

/--
A binary64 number. A finite one is `± significand · 2 ^ exponent`, where either the significand
has 53 bits or the exponent is `-1074`.
-/
inductive Double where
  | nan
  | infinite (negative : Bool)
  | finite (negative : Bool) (significand : Nat) (exponent : Int)
  deriving DecidableEq, Repr, Inhabited

namespace Double

def minExponent : Int := -1074

def maxExponent : Int := 971

def zero (negative : Bool) : Double := .finite negative 0 minExponent

def ofBits (bits : UInt64) : Double :=
  let n := bits.toNat
  let negative := n / pow2 63 % 2 == 1
  let biased : Nat := n / pow2 52 % pow2 11
  let fraction : Nat := n % pow2 52
  if biased = 0 then .finite negative fraction minExponent
  else if biased = 2047 then
    if fraction = 0 then .infinite negative else .nan
  else .finite negative (pow2 52 + fraction) ((biased : Int) - 1075)

def toBits : Double → UInt64
  | .nan => 0x7FF8000000000000
  | .infinite negative => signed negative (2047 * pow2 52)
  | .finite negative significand exponent =>
    if significand < pow2 52 then signed negative significand
    else signed negative ((exponent + 1074).toNat * pow2 52 + significand)
where
  signed (negative : Bool) (magnitude : Nat) : UInt64 :=
    UInt64.ofNat (if negative then pow2 63 + magnitude else magnitude)

def isFinite : Double → Bool
  | .finite .. => true
  | _ => false

def roundHalfEven (num den : Nat) : Nat :=
  let q := num / den
  let r := num % den
  if 2 * r < den then q
  else if den < 2 * r then q + 1
  else if q % 2 = 0 then q else q + 1

def log2Ratio (num den : Nat) : Int :=
  let k : Int := (num.log2 : Int) - den.log2
  if den * pow2 k.toNat ≤ num * pow2 (-k).toNat then k else k - 1

def nearest (negative : Bool) (num den : Nat) : Double :=
  if num = 0 then zero negative
  else
    let exponent := max (log2Ratio num den - 52) minExponent
    let significand :=
      roundHalfEven (num * pow2 (-exponent).toNat) (den * pow2 exponent.toNat)
    let (significand, exponent) :=
      if significand = pow2 53 then (pow2 52, exponent + 1) else (significand, exponent)
    if maxExponent < exponent then .infinite negative
    else .finite negative significand exponent

/--
The number nearest to a decimal. Decimals of more than 400 places before or after the point are
far outside the range and are not computed.
-/
def ofDecimal (d : Decimal) : Double :=
  let places : Int := (Nat.toDigits 10 d.digits).length + d.exponent
  if d.digits = 0 then zero d.negative
  else if 400 < places then .infinite d.negative
  else if places < -400 then zero d.negative
  else nearest d.negative (d.digits * pow10 d.exponent.toNat) (pow10 (-d.exponent).toNat)

def toNat? : Double → Option Nat
  | .finite negative significand exponent =>
    if significand = 0 then some 0
    else if negative then none
    else if 0 ≤ exponent then some (significand * pow2 exponent.toNat)
    else
      let den := pow2 (-exponent).toNat
      if significand % den = 0 then some (significand / den) else none
  | _ => none

end Double

end SheetSql
