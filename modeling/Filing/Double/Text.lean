import Filing.Double.Shortest

/-!
# The text of a double

A double is written with its shortest digits: as a plain decimal with a point when the exponent of
its first digit is from -5 to 15, and otherwise with that exponent and its sign. The text always holds
a point or an exponent, so that it differs from the text of every integer.
-/

namespace Filing.Double

/-- Which exponents of the first digit are written as plain decimals. -/
structure Layout where
  lowest : Int
  highest : Int

/-- The layout of numbers in this library: `0.00001` and `1000000000000000.0` are plain. -/
def Layout.standard : Layout := ⟨-5, 15⟩

def digitChars (n : Nat) : List Char := Nat.toDigits 10 n

def Decimal.chars (d : Decimal) (layout : Layout) : List Char :=
  let ds := digitChars d.digits
  let first : Int := d.exponent + ds.length - 1
  if layout.lowest ≤ first && first ≤ layout.highest then
    if 0 ≤ d.exponent then ds ++ List.replicate d.exponent.toNat '0' ++ ['.', '0']
    else if 0 ≤ first then
      ds.take (first.toNat + 1) ++ '.' :: ds.drop (first.toNat + 1)
    else '0' :: '.' :: List.replicate (-first - 1).toNat '0' ++ ds
  else
    let mantissa := match ds with
      | [c] => [c]
      | c :: cs => c :: '.' :: cs
      | [] => []
    mantissa ++ 'e' :: (if first < 0 then '-' else '+') :: digitChars first.natAbs

def chars (x : Double) : List Char :=
  (if x.isNegative then ['-'] else []) ++ x.shortest.chars .standard

end Filing.Double
