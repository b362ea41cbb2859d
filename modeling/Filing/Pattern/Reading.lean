import Filing.Pattern
import Filing.Double.Reading
import Filing.Node.Scalar

/-!
# Reading patterns

The notation of patterns: literals, classes in brackets (nested, with intersections and differences),
named classes, anchors, groups, alternatives, counted and uncounted repetitions, and flags that hold up
to the end of the group they stand in. There is no looking ahead and no reference to a group.
-/

namespace Filing.Pattern.Reading

structure Flags where
  caseless : Bool := false
  multiLine : Bool := false
  dotAll : Bool := false
  extended : Bool := false
  unicode : Bool := true
  returns : Bool := false

namespace Flags

def switch? (flags : Flags) (on : Bool) (letter : Char) : Option Flags :=
  if letter = 'i' then some { flags with caseless := on }
  else if letter = 'm' then some { flags with multiLine := on }
  else if letter = 's' then some { flags with dotAll := on }
  else if letter = 'x' then some { flags with extended := on }
  else if letter = 'u' then some { flags with unicode := on }
  else if letter = 'R' then some { flags with returns := on }
  else if letter = 'U' then some flags
  else none

end Flags

/-- A part of a pattern with the depth of the constructs in it. Flags are a part that matches nothing
and cannot be repeated. -/
structure Piece where
  pattern : Pattern
  depth : Nat
  repeatable : Bool

def deepest : Nat := 250

def afterComment (cs : List Char) : List Char := (cs.dropWhile (· ≠ '\n')).drop 1

def skipSpace (flags : Flags) (cs : List Char) : List Char :=
  let rec go : Nat → List Char → List Char
    | 0, cs => cs
    | fuel + 1, cs =>
      match cs with
      | '#' :: rest => go fuel (afterComment rest)
      | c :: rest => if Text.isBlank c then go fuel rest else c :: rest
      | [] => []
  if flags.extended then go cs.length cs else cs

def asciiDigits : CharClass := .range 0x30 0x39
def asciiLetters : CharClass := .union (.range 0x41 0x5A) (.range 0x61 0x7A)
def asciiWord : CharClass := .ofList [asciiDigits, asciiLetters, .char '_']
def asciiBlank : CharClass := .union (.range 0x9 0xD) (.char ' ')

/-- A class whose complement may be meant. Without the characters beyond ASCII a complement is not a
class of characters. -/
def orComplement (flags : Flags) (negated : Bool) (s : CharClass) : Option CharClass :=
  if !negated then some s else if flags.unicode then some (.not s) else none

def letterClass? (flags : Flags) (c : Char) : Option CharClass :=
  let lower := c.toLower
  let s? : Option CharClass :=
    if lower = 'd' then some (if flags.unicode then .property .digit else asciiDigits)
    else if lower = 's' then some (if flags.unicode then .property .blank else asciiBlank)
    else if lower = 'w' then some (if flags.unicode then .property .word else asciiWord)
    else none
  s?.bind (orComplement flags c.isUpper)

def fold (flags : Flags) (s : CharClass) : CharClass :=
  if !flags.caseless then s else if flags.unicode then .folded s else .foldedAscii s

def asciiClasses : List (String × CharClass) :=
  [("alnum", .union asciiDigits asciiLetters), ("alpha", asciiLetters), ("ascii", .range 0 0x7F),
    ("blank", .union (.char '\t') (.char ' ')), ("cntrl", .union (.range 0 0x1F) (.range 0x7F 0x7F)),
    ("digit", asciiDigits), ("graph", .range 0x21 0x7E), ("lower", .range 0x61 0x7A),
    ("print", .range 0x20 0x7E),
    ("punct", .ofList [.range 0x21 0x2F, .range 0x3A 0x40, .range 0x5B 0x60, .range 0x7B 0x7E]),
    ("space", asciiBlank), ("upper", .range 0x41 0x5A), ("word", asciiWord),
    ("xdigit", .ofList [asciiDigits, .range 0x41 0x46, .range 0x61 0x66])]

/-- The pattern for a class outside of brackets; without the characters beyond ASCII it may hold
none of them. -/
def ofClass? (flags : Flags) (s : CharClass) : Option Pattern :=
  if flags.unicode || s.isAscii then some (.char s) else none

def ofLiteral (flags : Flags) (c : Char) : Pattern :=
  let variants :=
    if flags.unicode then CharClass.caseVariants c.toNat else CharClass.asciiVariants c.toNat
  if flags.caseless && variants.any (· ≠ c.toNat) then .char (fold flags (.char c))
  else .char (.char c)

/-- What a backslash and the characters after it stand for. A character may be given by the two
hexadecimal digits of a byte. -/
inductive Escape where
  | literal (c : Char) (byte : Bool)
  | charClass (s : CharClass)
  | anchor (a : Anchor)

def isMeta (c : Char) : Bool := "\\.+*?()|[]\x7b\x7d^$#&-~".toList.contains c

def isEscapable (c : Char) : Bool :=
  c.toNat < 0x80 && !c.isAlphanum && c ≠ '<' && c ≠ '>'

def charOf? (n : Nat) : Option Char :=
  if n < 0xD800 || (0xE000 ≤ n && n < 0x110000) then some (.ofNat n) else none

def bracedHex? (flags : Flags) : List Char → List Char → Option (Char × List Char)
  | _, [] => none
  | ds, '}' :: rest => do
    let n ← Scalar.natInBase? 16 ds.reverse
    return (← charOf? n, rest)
  | ds, c :: rest =>
    if flags.extended && Text.isBlank c then bracedHex? flags ds rest
    else bracedHex? flags (c :: ds) rest

def hex? (flags : Flags) (count : Nat) (cs : List Char) : Option (Char × List Char) :=
  match skipSpace flags cs with
  | '{' :: rest => bracedHex? flags [] rest
  | cs =>
    let rec digits : Nat → List Char → Option (List Char × List Char)
      | 0, cs => some ([], cs)
      | k + 1, cs =>
        match skipSpace flags cs with
        | c :: rest => (digits k rest).map fun (ds, rest) => (c :: ds, rest)
        | [] => none
    do
      let (ds, rest) ← digits count cs
      return (← charOf? (← Scalar.natInBase? 16 ds), rest)

/-- The value after the name of a property and a sign of equality; the class is the complement after a
sign of inequality. -/
def namedProperty? (name : List Char) : Option CharClass :=
  let isGeneral (key : List Char) : Bool :=
    let key := (key.filter fun c => c ≠ ' ' && c ≠ '_' && c ≠ '-').map Char.toLower
    key = "gc".toList || key = "generalcategory".toList
  let general (key value : List Char) (negated : Bool) : Option CharClass :=
    if isGeneral key then
      (CharProperty.ofName? value).map fun p =>
        if negated then .not (.property p) else .property p
    else none
  let rec split : List Char → List Char → Option CharClass
    | _, [] => none
    | key, '!' :: '=' :: value => general key.reverse value true
    | key, c :: value =>
      if c = ':' || c = '=' then general key.reverse value false else split (c :: key) value
  match split [] name with
  | some s => some s
  | none => (CharProperty.ofName? name).map .property

def property? (flags : Flags) (negated : Bool) (cs : List Char) :
    Option (CharClass × List Char) := do
  let (name, rest) ← match skipSpace flags cs with
    | '{' :: rest =>
      match rest.span (· ≠ '}') with
      | (name, _ :: rest) => some (name, rest)
      | _ => none
    | c :: rest => if c = '\\' then none else some ([c], rest)
    | [] => none
  if !flags.unicode then none
  else
    let s ← namedProperty? name
    return (if negated then .not (fold flags s) else fold flags s, rest)

def edges : List (String × Anchor) :=
  [("\x7bstart\x7d", .wordStart), ("\x7bend\x7d", .wordEnd),
    ("\x7bstart-half\x7d", .wordStartHalf), ("\x7bend-half\x7d", .wordEndHalf)]

def escape? (flags : Flags) : List Char → Option (Escape × List Char)
  | [] => none
  | c :: rest =>
    if c.isDigit then none
    else if c = 'x' then
      (hex? flags 2 rest).map fun (d, after) =>
        (.literal d (match skipSpace flags rest with
          | '{' :: _ => false
          | _ => true), after)
    else if c = 'u' then (hex? flags 4 rest).map fun (d, rest) => (.literal d false, rest)
    else if c = 'U' then (hex? flags 8 rest).map fun (d, rest) => (.literal d false, rest)
    else if c = 'p' || c = 'P' then
      (property? flags (c = 'P') rest).map fun (s, rest) => (.charClass s, rest)
    else if "dswDSW".toList.contains c then
      (letterClass? flags c).map fun s => (.charClass s, rest)
    else if isMeta c || isEscapable c then some (.literal c false, rest)
    else if c = 'a' then some (.literal '\x07' false, rest)
    else if c = 'f' then some (.literal '\x0c' false, rest)
    else if c = 't' then some (.literal '\t' false, rest)
    else if c = 'n' then some (.literal '\n' false, rest)
    else if c = 'r' then some (.literal '\r' false, rest)
    else if c = 'v' then some (.literal '\x0b' false, rest)
    else if c = 'A' then some (.anchor .textStart, rest)
    else if c = 'z' then some (.anchor .textEnd, rest)
    else if c = 'b' then
      match edges.find? fun (name, _) => name.toList.isPrefixOf rest with
      | some (name, a) => some (.anchor a, rest.drop name.length)
      | none => some (.anchor .wordEdge, rest)
    else if c = 'B' then some (.anchor .noWordEdge, rest)
    else if c = '<' then some (.anchor .wordStart, rest)
    else if c = '>' then some (.anchor .wordEnd, rest)
    else none

def asciiClass? (flags : Flags) (cs : List Char) : Option (CharClass × List Char) :=
  let (negated, cs) := match cs with
    | '^' :: cs => (true, cs)
    | cs => (false, cs)
  match cs.span (· ≠ ':') with
  | (name, ':' :: ']' :: rest) =>
    (asciiClasses.lookup (.ofList name)).map fun s =>
      (if negated then .not (fold flags s) else fold flags s, rest)
  | _ => none

def classItem? (flags : Flags) : List Char → Option (Sum Char CharClass × List Char)
  | [] => none
  | '\\' :: rest =>
    match escape? flags rest with
    | some (.literal c byte, rest) =>
      if !flags.unicode && byte && 0x80 ≤ c.toNat then none else some (.inl c, rest)
    | some (.charClass s, rest) => some (.inr s, rest)
    | _ => none
  | c :: rest => some (.inl c, rest)

def itemClass : Sum Char CharClass → CharClass
  | .inl c => .char c
  | .inr s => s

def classRange? (flags : Flags) (cs : List Char) : Option (CharClass × List Char) := do
  let (first, rest) ← classItem? flags cs
  match skipSpace flags rest with
  | [] => none
  | '-' :: after =>
    let ahead := skipSpace flags after
    if ahead.head? = some ']' || ahead.head? = some '-' then
      return (itemClass first, '-' :: after)
    else
      let (last, rest) ← classItem? flags ahead
      match first, last with
      | .inl a, .inl b => if a ≤ b then return (.range a.toNat b.toNat, rest) else none
      | _, _ => none
  | rest => return (itemClass first, rest)

inductive ClassOperator where
  | inter
  | diff
  | either

def ClassOperator.join (flags : Flags) (a b : CharClass) : ClassOperator → CharClass
  | .inter => .inter (fold flags a) (fold flags b)
  | .diff => .diff (fold flags a) (fold flags b)
  | .either => .union (.diff (fold flags a) (fold flags b)) (.diff (fold flags b) (fold flags a))

def classOperator? : List Char → Option (ClassOperator × List Char)
  | '&' :: '&' :: rest => some (.inter, rest)
  | '-' :: '-' :: rest => some (.diff, rest)
  | '~' :: '~' :: rest => some (.either, rest)
  | _ => none

def joinItems (flags : Flags) (left : Option (CharClass × ClassOperator)) (items : List CharClass) :
    CharClass :=
  let right := CharClass.ofList items.reverse
  match left with
  | none => right
  | some (a, op) => op.join flags a right

def leadingHyphens (flags : Flags) : Nat → List CharClass → List Char → List CharClass × List Char
  | 0, items, cs => (items, cs)
  | fuel + 1, items, cs =>
    match cs with
    | '-' :: rest => leadingHyphens flags fuel (.char '-' :: items) (skipSpace flags rest)
    | cs => (items, cs)

mutual

/-- A class after its opening bracket, the depth of its classes, and what follows it. -/
def readClass (flags : Flags) : Nat → List Char → Option (CharClass × Nat × List Char)
  | 0, _ => none
  | fuel + 1, cs => do
    let cs := skipSpace flags cs
    let (negated, cs) := match cs with
      | '^' :: rest => (true, skipSpace flags rest)
      | cs => (false, cs)
    let (items, cs) := leadingHyphens flags cs.length [] cs
    let (items, cs) := match items, cs with
      | [], ']' :: rest => ([CharClass.char ']'], skipSpace flags rest)
      | items, cs => (items, cs)
    let (s, depth, rest) ← readItems flags fuel none items 0 cs
    let s := fold flags s
    return (if negated then .not s else s, depth + 1, rest)

def readItems (flags : Flags) : Nat → Option (CharClass × ClassOperator) → List CharClass → Nat →
    List Char → Option (CharClass × Nat × List Char)
  | 0, _, _, _, _ => none
  | fuel + 1, left, items, depth, cs =>
    match skipSpace flags cs with
    | [] => none
    | ']' :: rest => some (joinItems flags left items, depth, rest)
    | '[' :: rest =>
      let named := match rest with
        | ':' :: rest => asciiClass? flags rest
        | _ => none
      match named with
      | some (s, rest) =>
        if !flags.unicode && !s.isAscii then none
        else readItems flags fuel left (s :: items) depth rest
      | none => do
        let (s, d, rest) ← readClass flags fuel rest
        readItems flags fuel left (s :: items) (max depth d) rest
    | cs =>
      match classOperator? cs with
      | some (op, rest) =>
        readItems flags fuel (some (joinItems flags left items, op)) [] (depth + 1) rest
      | none => do
        let (s, rest) ← classRange? flags cs
        readItems flags fuel left (s :: items) depth rest

end

def count? (flags : Flags) (cs : List Char) : Option (Nat × List Char) :=
  let cs := cs.dropWhile Text.isBlank
  let (ds, rest) := cs.span fun c => c.isDigit || (flags.extended && Text.isBlank c)
  let ds := ds.filter Char.isDigit
  let rest := rest.dropWhile Text.isBlank
  if ds.isEmpty then none
  else
    let n := Double.natOfDigits ds
    if isUnsigned 32 n then some (n, rest) else none

/-- What follows the mark of a reluctant repetition, which matches the same texts. -/
def afterReluctant : List Char → List Char
  | '?' :: rest => rest
  | cs => cs

def bounds? (flags : Flags) (cs : List Char) : Option (Nat × Option Nat × List Char) := do
  let (least, cs) ← count? flags (skipSpace flags cs)
  let (most, cs) ← match cs with
    | ',' :: rest =>
      match skipSpace flags rest with
      | '}' :: _ => some (none, skipSpace flags rest)
      | rest => (count? flags rest).map fun (n, rest) => (some n, rest)
    | cs => some (some least, cs)
  match cs with
  | '}' :: rest =>
    if most.any (· < least) then none
    else return (least, most, afterReluctant (skipSpace flags rest))
  | _ => none

def repeatLast (least : Nat) (most : Option Nat) : List Piece → Option (List Piece)
  | p :: rest =>
    if p.repeatable then some (⟨.repeated p.pattern least most, p.depth + 1, true⟩ :: rest) else none
  | [] => none

def joinPieces (pieces : List Piece) : Piece :=
  match pieces with
  | [p] => p
  | ps =>
    ⟨Pattern.ofSequence ((ps.reverse).map Piece.pattern),
      if ps.isEmpty then 0 else ps.foldl (fun d p => max d p.depth) 0 + 1, true⟩

def joinBranches (branches : List Piece) : Piece :=
  match branches with
  | [p] => p
  | ps =>
    ⟨Pattern.ofChoice ((ps.reverse).map Piece.pattern),
      ps.foldl (fun d p => max d p.depth) 0 + 1, true⟩

/-- Flags up to the closing parenthesis or the colon: the new flags, whether any was given, and the
rest from that character on. No flag may come twice, nor the hyphen. -/
def readFlags (flags : Flags) (seen : List Char) (on lastHyphen : Bool) :
    List Char → Option (Flags × Bool × List Char)
  | [] => none
  | c :: rest =>
    if c = ':' || c = ')' then if lastHyphen then none else some (flags, !seen.isEmpty, c :: rest)
    else if seen.contains c then none
    else if c = '-' then readFlags flags (c :: seen) false true rest
    else do readFlags (← flags.switch? on c) (c :: seen) on false rest

def groupName? (cs : List Char) : Option (List Char × List Char) :=
  match cs.span (· ≠ '>') with
  | (name, _ :: rest) =>
    let isLetter (c : Char) : Bool :=
      c.isAlpha || (0x80 ≤ c.toNat && CharProperty.alphabetic.ranges.contains c)
    let isNumber (c : Char) : Bool := Text.numbers.contains c
    match name with
    | c :: more =>
      if (c = '_' || isLetter c)
          && more.all fun c => isLetter c || isNumber c || "_.[]".toList.contains c then
        some (name, rest)
      else none
    | [] => none
  | _ => none

def lineAnchor (flags : Flags) (start : Bool) : Pattern :=
  let a : Anchor :=
    if !flags.multiLine then if start then .textStart else .textEnd
    else if flags.returns then if start then .anyLineStart else .anyLineEnd
    else if start then .lineStart else .lineEnd
  .anchor a false

def dotClass (flags : Flags) : CharClass :=
  if flags.dotAll then .not .nothing
  else if flags.returns then .not (.union (.char '\n') (.char '\r'))
  else .not (.char '\n')

def primitive? (flags : Flags) : List Char → Option (Pattern × List Char)
  | [] => none
  | '\\' :: rest => do
    let (e, rest) ← escape? flags rest
    match e with
    | .literal c byte =>
      if !flags.unicode && byte && 0x80 ≤ c.toNat then none else return (ofLiteral flags c, rest)
    | .charClass s => return (← ofClass? flags s, rest)
    | .anchor a => return (.anchor a (!flags.unicode), rest)
  | '.' :: rest => (ofClass? flags (dotClass flags)).map (·, rest)
  | '^' :: rest => some (lineAnchor flags true, rest)
  | '$' :: rest => some (lineAnchor flags false, rest)
  | c :: rest => some (ofLiteral flags c, rest)

def looksAround (cs : List Char) : Bool :=
  ["?=", "?!", "?<=", "?<!"].any fun mark => mark.toList.isPrefixOf cs

/-- Reads alternatives up to a closing parenthesis or the end. `names` are the names of groups used so
far, `branches` and `pieces` what has been read, the last first. -/
def readBranches : Nat → Flags → List (List Char) → List Piece → List Piece → List Char →
    Option (Piece × List (List Char) × List Char)
  | 0, _, _, _, _, _ => none
  | fuel + 1, flags, names, branches, pieces, cs =>
    let group (inner : Flags) (names : List (List Char)) (cs : List Char) := do
      let (p, names, rest) ← readBranches fuel inner names [] [] cs
      match rest with
      | ')' :: rest =>
        readBranches fuel flags names branches (⟨p.pattern, p.depth + 1, true⟩ :: pieces) rest
      | _ => none
    let named (cs : List Char) := do
      let (name, rest) ← groupName? cs
      if names.contains name then none else group flags (name :: names) rest
    let repeated (least : Nat) (most : Option Nat) (rest : List Char) := do
      readBranches fuel flags names branches (← repeatLast least most pieces) rest
    match skipSpace flags cs with
    | [] => some (joinBranches (joinPieces pieces :: branches), names, [])
    | ')' :: rest => some (joinBranches (joinPieces pieces :: branches), names, ')' :: rest)
    | '|' :: rest => readBranches fuel flags names (joinPieces pieces :: branches) [] rest
    | '(' :: rest =>
      let rest := skipSpace flags rest
      if looksAround rest then none
      else
        match rest with
        | '?' :: 'P' :: '<' :: rest => named rest
        | '?' :: '<' :: rest => named rest
        | '?' :: rest => do
          let (inner, given, rest) ← readFlags flags [] true false rest
          match rest with
          | ':' :: rest => group inner names rest
          | _ :: rest =>
            if given then
              readBranches fuel inner names branches (⟨.empty, 0, false⟩ :: pieces) rest
            else none
          | [] => none
        | rest => group flags names rest
    | '[' :: rest => do
      let (s, depth, rest) ← readClass flags (2 * rest.length + 2) rest
      let p ← ofClass? flags s
      readBranches fuel flags names branches (⟨p, depth, true⟩ :: pieces) rest
    | '?' :: rest => repeated 0 (some 1) (afterReluctant rest)
    | '*' :: rest => repeated 0 none (afterReluctant rest)
    | '+' :: rest => repeated 1 none (afterReluctant rest)
    | '{' :: rest => do
      let (least, most, rest) ← bounds? flags rest
      repeated least most rest
    | cs => do
      let (p, rest) ← primitive? flags cs
      readBranches fuel flags names branches (⟨p, 0, true⟩ :: pieces) rest

end Filing.Pattern.Reading

namespace Filing

inductive PatternFault where
  | malformed
  | tooLarge
deriving DecidableEq, Repr

namespace Pattern

def read? (text : String) : Option Pattern := do
  let cs := text.toList
  let (p, _, rest) ← Reading.readBranches (cs.length + 1) {} [] [] [] cs
  if rest.isEmpty && p.depth ≤ Reading.deepest then return p.pattern else none

def compile (text : String) : Except PatternFault Pattern :=
  match read? text with
  | none => .error .malformed
  | some p => if p.weight ≤ greatestWeight then .ok p else .error .tooLarge

end Pattern

end Filing
