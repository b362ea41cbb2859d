/-!
# Double precision numbers

A double is given by its 64 bits: sign, eleven bits of exponent, 52 bits of fraction. All of its
arithmetic is exact: the magnitude of a finite double is a whole number of units of 2^-1074, so
comparing is comparing integers, and every rounding goes through `roundRatio`, which takes a ratio of
natural numbers to the nearest double, a tie to the even one.
-/

namespace Filing

structure Double where
  bits : UInt64
deriving DecidableEq

namespace Double

def signPlace : Nat := Nat.pow 2 63

def fractionCount : Nat := Nat.pow 2 52

def unitsPerOne : Nat := Nat.pow 2 1074

def isNegative (x : Double) : Bool := signPlace ≤ x.bits.toNat

def magnitudeBits (x : Double) : Nat := x.bits.toNat % signPlace

/-- The bits of the infinite magnitude; those of a not-a-number are above it. -/
def infinityBits : Nat := 2047 * fractionCount

def isNaN (x : Double) : Bool := infinityBits < x.magnitudeBits

def isFinite (x : Double) : Bool := x.magnitudeBits < infinityBits

def ofMagnitude (negative : Bool) (magnitude : Nat) : Double :=
  ⟨UInt64.ofNat ((if negative then signPlace else 0) + magnitude)⟩

def nan : Double := ofMagnitude false (infinityBits + fractionCount / 2)

def infinity (negative : Bool) : Double := ofMagnitude negative infinityBits

def zero : Double := ⟨0⟩

/-- The power of two, counted from 2^-1074, that the significand is taken times. -/
def scale (x : Double) : Nat := x.magnitudeBits / fractionCount - 1

def significand (x : Double) : Nat :=
  if x.magnitudeBits < fractionCount then x.magnitudeBits
  else x.magnitudeBits % fractionCount + fractionCount

/-- The magnitude in units of 2^-1074. -/
def units (x : Double) : Nat := x.significand * Nat.pow 2 x.scale

def signedUnits (x : Double) : Int := if x.isNegative then -(x.units : Int) else x.units

/-- The ratio rounded to the nearest integer, a tie to the even one. -/
def roundDiv (num den : Nat) : Nat :=
  let q := num / den
  let r := num % den
  if 2 * r < den then q else if den < 2 * r then q + 1 else q + q % 2

/-- The magnitude bits of the double nearest to `num / den`. -/
def roundRatio (num den : Nat) : Nat :=
  let scaled := num * unitsPerOne
  let whole := scaled / den
  let scale := if whole < 2 * fractionCount then 0 else whole.log2 - 52
  min infinityBits (scale * fractionCount + roundDiv scaled (den * Nat.pow 2 scale))

def ofRatio (negative : Bool) (num den : Nat) : Double :=
  ofMagnitude negative (roundRatio num den)

def ofInt (n : Int) : Double := ofRatio (n < 0) n.natAbs 1

/-- The magnitude bits of the double nearest to `digits * 10 ^ exponent`. Far outside of the range
of a double the power is not computed. -/
def roundDecimal (digits : Nat) (exponent : Int) : Nat :=
  if digits = 0 then 0
  else if 400 ≤ exponent then infinityBits
  else if exponent + (digits.log2 + 1 : Nat) < -1200 then 0
  else if 0 ≤ exponent then roundRatio (digits * Nat.pow 10 exponent.toNat) 1
  else roundRatio digits (Nat.pow 10 (-exponent).toNat)

def ofDecimal (negative : Bool) (digits : Nat) (exponent : Int) : Double :=
  ofMagnitude negative (roundDecimal digits exponent)

def mulMagnitude (x y : Double) : Nat := roundRatio (x.units * y.units) (unitsPerOne * unitsPerOne)

def divMagnitude (x y : Double) : Nat := roundRatio x.units y.units

/-- Nothing compares below or above a not-a-number. -/
def lt (x y : Double) : Bool := !x.isNaN && !y.isNaN && x.signedUnits < y.signedUnits

def le (x y : Double) : Bool := !x.isNaN && !y.isNaN && x.signedUnits ≤ y.signedUnits

/-- Equal as numbers: both zeros are equal, and no not-a-number equals anything. -/
def eq (x y : Double) : Bool := !x.isNaN && !y.isNaN && x.signedUnits == y.signedUnits

end Double

end Filing
