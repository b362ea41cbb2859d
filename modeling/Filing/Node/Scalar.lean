import Filing.Bits
import Filing.Node
import Filing.Double.Reading

/-!
# Scalars and their types

What the text of a plain scalar means: the forms of null, the two truth values, integers in four
bases, doubles, and otherwise a text. Digits after a leading zero are a text. `Scalar.resolve` is the
type that a scalar has for a reader without any expectation; `Scalar.int?` and `Scalar.bool?` serve the
readers that expect one type.
-/

namespace Filing.Scalar

def nullTag : String := "tag:yaml.org,2002:null"
def boolTag : String := "tag:yaml.org,2002:bool"
def intTag : String := "tag:yaml.org,2002:int"
def doubleTag : String := "tag:yaml.org,2002:float"

def isNullText (s : String) : Bool := s == "null" || s == "Null" || s == "NULL" || s == "~"

def boolOfText? (s : String) : Option Bool :=
  if s == "true" || s == "True" || s == "TRUE" then some true
  else if s == "false" || s == "False" || s == "FALSE" then some false
  else none

def baseDigit? (base : Nat) (c : Char) : Option Nat :=
  let v :=
    if '0' ≤ c && c ≤ '9' then c.toNat - '0'.toNat
    else if 'a' ≤ c && c ≤ 'f' then c.toNat - 'a'.toNat + 10
    else if 'A' ≤ c && c ≤ 'F' then c.toNat - 'A'.toNat + 10
    else base
  if v < base then some v else none

def natInBase? (base : Nat) : List Char → Option Nat
  | [] => none
  | cs => cs.foldlM (fun n c => (baseDigit? base c).map (base * n + ·)) 0

/-- A leading zero before further digits makes a text of what would be a number. -/
def isZeroPadded (cs : List Char) : Bool :=
  match (Double.splitSign cs).2 with
  | '0' :: c :: rest => (c :: rest).all Double.isDigit
  | _ => false

def splitBase : List Char → Nat × List Char
  | '0' :: 'x' :: cs => (16, cs)
  | '0' :: 'o' :: cs => (8, cs)
  | '0' :: 'b' :: cs => (2, cs)
  | cs => (10, cs)

def intOfText? (s : String) : Option Int :=
  let cs := s.toList
  let (negative, digits) := Double.splitSign cs
  let (base, digits) := splitBase digits
  if isZeroPadded cs then none
  else (natInBase? base digits).map fun n => if negative then -(n : Int) else n

def fitsInteger (n : Int) : Bool := isSigned 64 n || isUnsigned 64 n

/-- Integers up to 128 bits are known as integers that do not fit; beyond that a text of digits is read
as a double. -/
def fitsWideInteger (n : Int) : Bool := isSigned 128 n || isUnsigned 128 n

def doubleOfText? (s : String) : Option Double :=
  let positive := if s.toList.head? = some '+' then String.ofList s.toList.tail else s
  if positive == ".inf" || positive == ".Inf" || positive == ".INF" then some (.infinity false)
  else if s == "-.inf" || s == "-.Inf" || s == "-.INF" then some (.infinity true)
  else if s == ".nan" || s == ".NaN" || s == ".NAN" then some .nan
  else (Double.ofChars? s.toList).filter Double.isFinite

/-- What a plain text is for a reader without expectation. An integer that does not fit is
unreadable. -/
def resolvePlain (s : String) : Node :=
  if s.isEmpty || isNullText s then .null
  else match boolOfText? s with
    | some b => .bool b
    | none => match (intOfText? s).filter fitsWideInteger with
      | some n => if fitsInteger n then .int n else .unreadable
      | none => match if isZeroPadded s.toList then none else doubleOfText? s with
        | some x => .double x
        | none => .text s

def isOwnTag (tag : String) : Bool := tag.toList.head? = some '!'

def resolve (x : Scalar) : Node :=
  match x.tag with
  | none => if x.style = .plain then resolvePlain x.text else .text x.text
  | some tag =>
    if isOwnTag tag then .unreadable
    else if tag = boolTag then
      match boolOfText? x.text with
      | some b => .bool b
      | none => .unreadable
    else if tag = intTag then
      match (intOfText? x.text).filter fitsInteger with
      | some n => .int n
      | none => .unreadable
    else if tag = doubleTag then
      match doubleOfText? x.text with
      | some y => .double y
      | none => .unreadable
    else if tag = nullTag then
      if isNullText x.text then .null else .unreadable
    else .text x.text

/-- Whether a reader that expects a type looks at the text: the scalar is plain, whatever its tag, or a
literal block with the tag of that type. -/
def offers (x : Scalar) (tag : String) : Bool :=
  x.style = .plain || (x.style = .literal && x.tag = some tag)

def int? (x : Scalar) : Option Int := if x.offers intTag then intOfText? x.text else none

def bool? (x : Scalar) : Option Bool := if x.offers boolTag then boolOfText? x.text else none

/-- Whether the scalar is absent for a reader of an optional part; `none` when its tag says null and its
text does not. -/
def isAbsent? (x : Scalar) : Option Bool :=
  if x.style ≠ .plain then some false
  else match x.tag with
    | some tag => if tag = nullTag then if isNullText x.text then some true else none else some false
    | none => some (x.text.isEmpty || isNullText x.text)

def isBlank (x : Scalar) : Bool := x.style = .plain && x.text.isEmpty

end Filing.Scalar
