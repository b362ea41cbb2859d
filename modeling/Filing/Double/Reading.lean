import Filing.Double

/-!
# Reading a double from text

The grammar is a sign, digits with at most one point among or beside them, and an exponent with an
optional sign; or one of the words `inf`, `infinity` and `nan` in any case. The value is the double
nearest to the decimal, so a decimal beyond the largest double reads as infinity.
-/

namespace Filing.Double

def digitValue? (c : Char) : Option Nat :=
  if '0' ≤ c && c ≤ '9' then some (c.toNat - '0'.toNat) else none

def isDigit (c : Char) : Bool := '0' ≤ c && c ≤ '9'

def spanDigits (cs : List Char) : List Char × List Char := cs.span isDigit

def natOfDigits (ds : List Char) : Nat :=
  ds.foldl (fun n c => 10 * n + (c.toNat - '0'.toNat)) 0

def splitSign : List Char → Bool × List Char
  | '-' :: cs => (true, cs)
  | '+' :: cs => (false, cs)
  | cs => (false, cs)

def readExponent? : List Char → Option Int
  | [] => some 0
  | c :: cs =>
    if c = 'e' || c = 'E' then
      let (negative, cs) := splitSign cs
      match spanDigits cs with
      | ([], _) => none
      | (ds, []) => some (if negative then -(natOfDigits ds : Int) else natOfDigits ds)
      | _ => none
    else none

def readUnsigned? (cs : List Char) : Option (Nat × Int) :=
  let (whole, rest) := spanDigits cs
  let (fraction, rest) := match rest with
    | '.' :: rest => spanDigits rest
    | rest => ([], rest)
  if whole.isEmpty && fraction.isEmpty then none
  else (readExponent? rest).map fun e => (natOfDigits (whole ++ fraction), e - fraction.length)

def readWord? (negative : Bool) (cs : List Char) : Option Double :=
  let word := String.ofList (cs.map Char.toLower)
  if word = "inf" || word = "infinity" then some (infinity negative)
  else if word = "nan" then some nan
  else none

def ofChars? (cs : List Char) : Option Double :=
  let (negative, cs) := splitSign cs
  match readWord? negative cs with
  | some x => some x
  | none => (readUnsigned? cs).map fun (digits, exponent) => ofDecimal negative digits exponent

end Filing.Double
