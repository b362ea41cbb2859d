import Filing.Double

/-!
# The shortest decimal of a double

`Double.shortest` gives the digits and the power of ten of the decimal with the fewest digits that
reads back as the same double; of several the nearest to it, and of two equally near the even one.
Every decimal it gives has been read back (`roundDecimal`), and where no short decimal is found the
exact one is given, so different finite magnitudes never share a decimal.
-/

namespace Filing.Double

/-- A decimal without sign: `digits * 10 ^ exponent`. -/
structure Decimal where
  digits : Nat
  exponent : Int
deriving DecidableEq, Repr

def readsBack (x : Double) (d : Decimal) : Bool :=
  roundDecimal d.digits d.exponent == x.magnitudeBits

/-- The number of whole steps of `10 ^ exponent` in the magnitude, and how twice the part left over
compares with one step. -/
def stepsOf (x : Double) (exponent : Int) : Nat × Ordering :=
  let num := x.units * Nat.pow 10 (-exponent).toNat
  let den := unitsPerOne * Nat.pow 10 exponent.toNat
  (num / den, compare (2 * (num % den)) den)

/-- The decimal on the grid of a power of ten that reads back; of two the nearer one, and of two
equally near the even one. -/
def onGrid? (x : Double) (exponent : Int) : Option Decimal :=
  let (steps, rest) := x.stepsOf exponent
  let below : Decimal := ⟨steps, exponent⟩
  let above : Decimal := ⟨steps + 1, exponent⟩
  let belowFirst := rest == .lt || (rest == .eq && steps % 2 == 0)
  let (first, second) := if belowFirst then (below, above) else (above, below)
  if 0 < first.digits && x.readsBack first then some first
  else if 0 < second.digits && x.readsBack second then some second
  else none

/-- A power of ten that is above the magnitude, by at most two places. -/
def topExponent (x : Double) : Int :=
  (((x.units.log2 : Int) - 1074 + 1) * 30103).fdiv 100000 + 2

def exactDecimal (x : Double) : Decimal := ⟨x.units * Nat.pow 5 1074, -1074⟩

/-- The first grid with a decimal that reads back, from coarse to fine. -/
def firstOnGrid (x : Double) (top : Int) : Nat → Decimal
  | 0 => x.exactDecimal
  | fuel + 1 =>
    match x.onGrid? top with
    | some d => d
    | none => firstOnGrid x (top - 1) fuel

def shortest (x : Double) : Decimal :=
  if x.magnitudeBits = 0 then ⟨0, 0⟩ else x.firstOnGrid x.topExponent 22

end Filing.Double
