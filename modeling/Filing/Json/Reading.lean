import Filing.Node.Reading
import Filing.Double.Reading

/-!
# Reading JSON text

The grammar is the strict one: no comments, no blanks but the four, no control characters in strings.
A text is read into a `Node`, so that a part which is well formed and yet has no value (a number beyond
the range of a double, half of a surrogate pair, a value nested more than 127 deep) is refused only by
a reader that looks at it.
-/

namespace Filing.Json.Reading

def isBlank (c : Char) : Bool := c = ' ' || c = '\n' || c = '\t' || c = '\r'

def skipBlanks (cs : List Char) : List Char := cs.dropWhile isBlank

def deepest : Nat := 127

/-- A unit of an escaped string: a character, or a unit of sixteen bits written in hexadecimal. -/
inductive Part where
  | char (c : Char)
  | unit (n : Nat)

def hex4? : List Char → Option (Nat × List Char)
  | a :: b :: c :: d :: rest => (Scalar.natInBase? 16 [a, b, c, d]).map (·, rest)
  | _ => none

def stringParts : Nat → List Char → Option (List Part × List Char)
  | 0, _ => none
  | fuel + 1, cs =>
    let next (part : Part) (rest : List Char) :=
      (stringParts fuel rest).map fun (parts, rest) => (part :: parts, rest)
    match cs with
    | [] => none
    | '"' :: rest => some ([], rest)
    | '\\' :: 'u' :: rest => do
      let (n, rest) ← hex4? rest
      next (.unit n) rest
    | '\\' :: c :: rest =>
      if c = '"' || c = '\\' || c = '/' then next (.char c) rest
      else if c = 'b' then next (.char '\x08') rest
      else if c = 'f' then next (.char '\x0c') rest
      else if c = 'n' then next (.char '\n') rest
      else if c = 'r' then next (.char '\r') rest
      else if c = 't' then next (.char '\t') rest
      else none
    | c :: rest => if c.toNat < 0x20 then none else next (.char c) rest

def joinParts : List Part → Option (List Char)
  | [] => some []
  | .char c :: rest => (joinParts rest).map (c :: ·)
  | .unit a :: .unit b :: rest =>
    if 0xD800 ≤ a && a < 0xDC00 then
      if 0xDC00 ≤ b && b < 0xE000 then
        (joinParts rest).map (Char.ofNat (0x10000 + (a - 0xD800) * 0x400 + (b - 0xDC00)) :: ·)
      else none
    else if 0xDC00 ≤ a && a < 0xE000 then none
    else (joinParts (.unit b :: rest)).map (Char.ofNat a :: ·)
  | .unit a :: rest =>
    if 0xD800 ≤ a && a < 0xE000 then none else (joinParts rest).map (Char.ofNat a :: ·)

def readString (cs : List Char) : Option (Node × List Char) := do
  let (parts, rest) ← stringParts (cs.length + 1) cs
  return (match joinParts parts with
    | some cs => .text (.ofList cs)
    | none => .unreadable, rest)

/-- The digits that fit into 64 bits, and those that come after them. -/
def fitDigits (n : Nat) : List Char → Nat × List Char
  | [] => (n, [])
  | d :: ds =>
    let m := 10 * n + (d.toNat - '0'.toNat)
    if isUnsigned 64 m then fitDigits m ds else (n, d :: ds)

/-- `significand * 10 ^ exponent` as a double, computed by one rounded multiplication or division with
the double nearest to the power of ten; below the smallest power there are several divisions. `none`
when it is beyond the largest double. -/
def scaleByPower (negative : Bool) (significand : Nat) (exponent : Int) : Option Double :=
  let power (n : Nat) : Double := .ofDecimal false 1 n
  let rec divideDown (fuel : Nat) (x : Double) (n : Nat) : Double :=
    match fuel with
    | 0 => .zero
    | fuel + 1 =>
      if n ≤ 308 then .ofMagnitude false (x.divMagnitude (power n))
      else if x = .zero then x
      else divideDown fuel (.ofMagnitude false (x.divMagnitude (power 308))) (n - 308)
  let start : Double := .ofInt significand
  if exponent < 0 then
    some (.ofMagnitude negative (divideDown 5 start exponent.natAbs).magnitudeBits)
  else if 308 < exponent then
    if significand = 0 then some (.ofMagnitude negative 0) else none
  else
    let x : Double := .ofMagnitude negative (start.mulMagnitude (power exponent.toNat))
    if x.isFinite then some x else none

def readWhole : List Char → Option (List Char × List Char)
  | '0' :: rest =>
    match rest with
    | c :: _ => if Double.isDigit c then none else some (['0'], rest)
    | [] => some (['0'], [])
  | cs =>
    match Double.spanDigits cs with
    | ([], _) => none
    | found => some found

def readFraction : List Char → Option (Option (List Char) × List Char)
  | '.' :: rest =>
    match Double.spanDigits rest with
    | ([], _) => none
    | (ds, rest) => some (some ds, rest)
  | cs => some (none, cs)

def readExponent : List Char → Option (Option Int × List Char)
  | c :: rest =>
    if c = 'e' || c = 'E' then
      let (negative, rest) := Double.splitSign rest
      match Double.spanDigits rest with
      | ([], _) => none
      | (ds, rest) =>
        some (some (if negative then -(Double.natOfDigits ds : Int) else Double.natOfDigits ds), rest)
    else some (none, c :: rest)
  | [] => some (none, [])

/-- The value of a number from its parts. An integer is kept exactly where it fits into 64 bits;
negative zero is a double. Digits that no longer fit into the significand are dropped after the point
and counted before it. -/
def numberOf (negative : Bool) (whole : List Char) (fraction : Option (List Char))
    (exponent : Option Int) : Node :=
  let (n, dropped) := fitDigits 0 whole
  let double (significand : Nat) (e : Int) : Node :=
    match exponent with
    | some e' =>
      if Nat.pow 2 31 ≤ e'.natAbs then
        if significand ≠ 0 && 0 ≤ e' then .unreadable else .double (.ofMagnitude negative 0)
      else
        match scaleByPower negative significand (e + e') with
        | some x => .double x
        | none => .unreadable
    | none =>
      match scaleByPower negative significand e with
      | some x => .double x
      | none => .unreadable
  match fraction with
  | some ds =>
    let (m, left) := fitDigits n ds
    double m (dropped.length - (ds.length - left.length : Nat))
  | none =>
    if dropped.isEmpty && exponent.isNone then
      if !negative then .int n
      else if n = 0 then .double (.ofMagnitude true 0)
      else if isSigned 64 (-(n : Int)) then .int (-(n : Int))
      else .double (.ofInt (-(n : Int)))
    else double n dropped.length

def readNumber (cs : List Char) : Option (Node × List Char) := do
  let (negative, cs) := match cs with
    | '-' :: cs => (true, cs)
    | cs => (false, cs)
  let (whole, cs) ← readWhole cs
  let (fraction, cs) ← readFraction cs
  let (exponent, cs) ← readExponent cs
  return (numberOf negative whole fraction exponent, cs)

def afterWord (word : List Char) (cs : List Char) : Option (List Char) :=
  if word.isPrefixOf cs then some (cs.drop word.length) else none

mutual

/-- A value that `room` more levels may surround, and what follows it. -/
def readValue : Nat → Nat → List Char → Option (Node × List Char)
  | 0, _, _ => none
  | fuel + 1, room, cs =>
    match skipBlanks cs with
    | '"' :: rest => readString rest
    | '[' :: rest =>
      let found := match skipBlanks rest with
        | ']' :: rest => some ([], rest)
        | rest => readItems fuel (room - 1) rest
      found.map fun (xs, rest) =>
        (if room = 0 then .unreadable else .sequence false true xs, rest)
    | '{' :: rest =>
      let found := match skipBlanks rest with
        | '}' :: rest => some ([], rest)
        | rest => readMembers fuel (room - 1) rest
      found.map fun (ms, rest) => (if room = 0 then .unreadable else .mapping false ms, rest)
    | 'n' :: rest => (afterWord "ull".toList rest).map (.null, ·)
    | 't' :: rest => (afterWord "rue".toList rest).map (.bool true, ·)
    | 'f' :: rest => (afterWord "alse".toList rest).map (.bool false, ·)
    | cs => readNumber cs

def readItems : Nat → Nat → List Char → Option (List Node × List Char)
  | 0, _, _ => none
  | fuel + 1, room, cs => do
    let (x, rest) ← readValue fuel room cs
    match skipBlanks rest with
    | ']' :: rest => return ([x], rest)
    | ',' :: rest => do
      let (xs, rest) ← readItems fuel room rest
      return (x :: xs, rest)
    | _ => none

def readMembers : Nat → Nat → List Char → Option (List (Node × Node) × List Char)
  | 0, _, _ => none
  | fuel + 1, room, cs =>
    match skipBlanks cs with
    | '"' :: rest => do
      let (k, rest) ← readString rest
      match skipBlanks rest with
      | ':' :: rest => do
        let (x, rest) ← readValue fuel room rest
        match skipBlanks rest with
        | '}' :: rest => return ([(k, x)], rest)
        | ',' :: rest => do
          let (ms, rest) ← readMembers fuel room rest
          return ((k, x) :: ms, rest)
        | _ => none
      | _ => none
    | _ => none

end

end Filing.Json.Reading

namespace Filing

def Node.ofJsonText? (text : String) : Option Node :=
  let cs := text.toList
  match Json.Reading.readValue (2 * cs.length + 2) Json.Reading.deepest cs with
  | some (node, rest) => if (Json.Reading.skipBlanks rest).isEmpty then some node else none
  | none => none

def Json.ofText? (text : String) : Option Json := (Node.ofJsonText? text).bind Node.json?

end Filing
