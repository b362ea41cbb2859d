/-!
# Ranges of code points

A class of characters is given by the ranges of its code points, first and last included.
-/

namespace Filing.Text

abbrev Ranges := List (Nat × Nat)

def Ranges.has (ranges : Ranges) (n : Nat) : Bool := ranges.any fun (a, b) => a ≤ n && n ≤ b

def Ranges.contains (ranges : Ranges) (c : Char) : Bool := ranges.has c.toNat

end Filing.Text
