import Filing.Yaml.ScalarText
import Filing.Yaml.TagText

/-!
# Tokens

The tokens of a text in the looser format. Collections that are written by indentation get tokens where
they start and end, and a key without an indicator gets one as soon as the colon after it is met; such a
key has to be on one line and short.
-/

namespace Filing.Yaml

inductive Token where
  | textEnd
  | directive (directive : Directive)
  | documentStart
  | documentEnd
  | blockSequence
  | blockMapping
  | blockEnd
  | flowSequence
  | flowSequenceEnd
  | flowMapping
  | flowMappingEnd
  | entry
  | comma
  | key
  | value
  | alias (name : String)
  | anchor (name : String)
  | tag (handle rest : String)
  | scalar (style : Scalar.Style) (text : String)

/-- A place where a key without an indicator may have begun, with the number of its first token.
Nothing but a key may stand there if it is `required`. -/
structure KeyPlace where
  required : Bool
  token : Nat
  line : Nat
  column : Nat
  index : Nat

/-- How far the tokens of a text are read. There is one place for a key in the innermost collection and
one in each bracket around it; `indent` is the column of the innermost block collection. -/
structure Scan where
  cursor : Cursor
  tokens : Array Token
  place : Option KeyPlace
  outerPlaces : List (Option KeyPlace)
  indent : Int
  outerIndents : List Int
  keyAllowed : Bool

namespace Scan

def start (cs : List Char) : Scan := ⟨⟨cs, 0, 0, 0⟩, #[], none, [], -1, [], true⟩

def inFlow (s : Scan) : Bool := !s.outerPlaces.isEmpty

def push (s : Scan) (token : Token) : Scan := { s with tokens := s.tokens.push token }

def skipSpace : Nat → Scan → Scan
  | 0, s => s
  | fuel + 1, s =>
    let tabs := s.inFlow || !s.keyAllowed
    let (_, k) := s.cursor.takeWhile fun c => c = ' ' || (tabs && c = '\t')
    let k := k.skipComment
    if (k.at? 0).any isBreak then
      skipSpace fuel { s with cursor := k.takeBreak.2, keyAllowed := s.keyAllowed || !s.inFlow }
    else { s with cursor := k }

/-- A place for a key that lies on a line before, or too far back, is given up. -/
def keepPlace (k : Cursor) : Option KeyPlace → Option (Option KeyPlace)
  | none => some none
  | some p =>
    if p.line < k.line || p.index + 1024 < k.index then if p.required then none else some none
    else some (some p)

def keepPlaces (s : Scan) : Option Scan := do
  let place ← keepPlace s.cursor s.place
  let outerPlaces ← s.outerPlaces.mapM (keepPlace s.cursor)
  return { s with place, outerPlaces }

def clearPlace (s : Scan) : Option Scan :=
  if s.place.any (·.required) then none else some { s with place := none }

def markPlace (s : Scan) : Option Scan :=
  if !s.keyAllowed then some s
  else do
    let required := !s.inFlow && s.indent = (s.cursor.column : Int)
    let s ← s.clearPlace
    let k := s.cursor
    return { s with place := some ⟨required, s.tokens.size, k.line, k.column, k.index⟩ }

def unindent (column : Int) (s : Scan) : Scan :=
  if s.inFlow then s
  else
    let ended := (s.indent :: s.outerIndents).takeWhile (column < ·)
    match (s.indent :: s.outerIndents).drop ended.length with
    | indent :: outerIndents =>
      { s with indent, outerIndents, tokens := s.tokens ++ ended.map fun _ => Token.blockEnd }
    | [] => s

/-- Starts a block collection at a column, if it is indented further than the one around it; the token
goes to the place `number`. -/
def indentTo (column number : Nat) (token : Token) (s : Scan) : Scan :=
  if s.inFlow || (column : Int) ≤ s.indent then s
  else
    { s with
      indent := column
      outerIndents := s.indent :: s.outerIndents
      tokens := s.tokens.insertIdxIfInBounds number token }

def indicator (s : Scan) (token : Token) (length : Nat) : Scan :=
  { s with cursor := s.cursor.skip length }.push token

def directive (s : Scan) : Option Scan := do
  let s ← (s.unindent (-1)).clearPlace
  let (directive, cursor) ← s.cursor.takeDirective?
  return { s with cursor, keyAllowed := false }.push (.directive directive)

def documentMark (s : Scan) : Option Scan := do
  let s ← (s.unindent (-1)).clearPlace
  let token := if s.cursor.isAt 0 '-' then Token.documentStart else .documentEnd
  return { s with keyAllowed := false }.indicator token 3

def flowStart (token : Token) (s : Scan) : Option Scan := do
  let s ← s.markPlace
  return { s with place := none, outerPlaces := s.place :: s.outerPlaces, keyAllowed := true }.indicator
    token 1

def flowEnd (token : Token) (s : Scan) : Option Scan := do
  let s ← s.clearPlace
  let s := match s.outerPlaces with
    | place :: outerPlaces => { s with place, outerPlaces }
    | [] => s
  return { s with keyAllowed := false }.indicator token 1

def comma (s : Scan) : Option Scan := do
  let s ← s.clearPlace
  return { s with keyAllowed := true }.indicator .comma 1

def entry (s : Scan) : Option Scan := do
  if !s.inFlow && !s.keyAllowed then none
  else
    let s ← (s.indentTo s.cursor.column s.tokens.size .blockSequence).clearPlace
    return { s with keyAllowed := true }.indicator .entry 1

def key (s : Scan) : Option Scan := do
  if !s.inFlow && !s.keyAllowed then none
  else
    let s ← (s.indentTo s.cursor.column s.tokens.size .blockMapping).clearPlace
    return { s with keyAllowed := !s.inFlow }.indicator .key 1

/-- A colon makes a key of what began at the place for one, and otherwise follows an empty key. -/
def value (s : Scan) : Option Scan :=
  match s.place with
  | some p =>
    let s := { s with tokens := s.tokens.insertIdxIfInBounds p.token .key, place := none }
    let s := s.indentTo p.column p.token .blockMapping
    some ({ s with keyAllowed := false }.indicator .value 1)
  | none =>
    if !s.inFlow && !s.keyAllowed then none
    else
      let s := s.indentTo s.cursor.column s.tokens.size .blockMapping
      some ({ s with keyAllowed := !s.inFlow }.indicator .value 1)

def name (token : String → Token) (s : Scan) : Option Scan := do
  let s ← s.markPlace
  let (name, cursor) ← (s.cursor.skip 1).takeAnchor?
  return { s with cursor, keyAllowed := false }.push (token name)

def tag (s : Scan) : Option Scan := do
  let s ← s.markPlace
  let (handle, rest, cursor) ← s.cursor.takeTag?
  if cursor.isSpaceAt 0 || (s.inFlow && cursor.isAt 0 ',') then
    return { s with cursor, keyAllowed := false }.push (.tag handle rest)
  else none

def blockScalar (literal : Bool) (s : Scan) : Option Scan := do
  let s ← s.clearPlace
  let (text, cursor) ← blockText literal s.indent (s.cursor.skip 1)
  let style := if literal then Scalar.Style.literal else .quoted
  return { s with cursor, keyAllowed := true }.push (.scalar style (.ofList text))

def quotedScalar (single : Bool) (s : Scan) : Option Scan := do
  let s ← s.markPlace
  let (text, cursor) ← quotedText single (s.cursor.rest.length + 1) (s.cursor.skip 1) []
  return { s with cursor, keyAllowed := false }.push (.scalar .quoted (.ofList text))

def plainScalar (s : Scan) : Option Scan := do
  let s ← s.markPlace
  let (text, crossed, cursor) ←
    plainText s.inFlow (s.indent + 1) (s.cursor.rest.length + 1) s.cursor [] [] false
  return { s with cursor, keyAllowed := crossed }.push (.scalar .plain (.ofList text))

def isIndicator (c : Char) : Bool := "-?:,[]\x7b\x7d#&*!|>'\"%@`".toList.contains c

def token (c : Char) (s : Scan) : Option Scan :=
  let k := s.cursor
  let spaced := k.isSpaceAt 1
  if k.column = 0 && c = '%' then s.directive
  else if k.atDocumentMark then s.documentMark
  else if c = '[' then s.flowStart .flowSequence
  else if c = '\x7b' then s.flowStart .flowMapping
  else if c = ']' then s.flowEnd .flowSequenceEnd
  else if c = '\x7d' then s.flowEnd .flowMappingEnd
  else if c = ',' then s.comma
  else if c = '-' && spaced then s.entry
  else if c = '?' && (s.inFlow || spaced) then s.key
  else if c = ':' && (s.inFlow || spaced) then s.value
  else if c = '*' then s.name .alias
  else if c = '&' then s.name .anchor
  else if c = '!' then s.tag
  else if c = '|' && !s.inFlow then s.blockScalar true
  else if c = '>' && !s.inFlow then s.blockScalar false
  else if c = '\'' then s.quotedScalar true
  else if c = '"' then s.quotedScalar false
  else if (!isBlank c && !isIndicator c) || c = '-' || (!s.inFlow && (c = '?' || c = ':')) then
    s.plainScalar
  else none

def run : Nat → Scan → Option (Array Token)
  | 0, _ => none
  | fuel + 1, s => do
    let s := s.skipSpace (s.cursor.rest.length + 1)
    let s ← s.keepPlaces
    let s := s.unindent s.cursor.column
    match s.cursor.rest with
    | c :: _ => run fuel (← s.token c)
    | [] =>
      let s ← (s.unindent (-1)).clearPlace
      return s.tokens.push .textEnd

end Scan

/-- The tokens of a text, which may begin with a byte order mark. `none` when the text holds a character
that is not allowed, or a part of it is no token. -/
def Token.ofText? (text : String) : Option (List Token) :=
  let cs := match text.toList with
    | '\ufeff' :: cs => cs
    | cs => cs
  if cs.all isAllowed then ((Scan.start cs).run (cs.length + 2)).map Array.toList else none

end Filing.Yaml
