/-!
# Integers of so many bits

The ranges of the integers that fit into a word. Powers are written `Nat.pow` throughout, which means the
same wherever it is read.
-/

namespace Filing

def isSigned (bits : Nat) (n : Int) : Bool :=
  -(Nat.pow 2 (bits - 1) : Int) ≤ n && n < (Nat.pow 2 (bits - 1) : Int)

def isUnsigned (bits : Nat) (n : Int) : Bool := 0 ≤ n && n < (Nat.pow 2 bits : Int)

end Filing
