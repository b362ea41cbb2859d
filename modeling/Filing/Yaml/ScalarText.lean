import Filing.Node.Scalar
import Filing.Yaml.Cursor

/-!
# The texts of scalars

Plain scalars, scalars in quotes and block scalars, each read from where it starts to its text and the
place after it. Line breaks inside of plain and quoted scalars are folded: one break is a space, and of
several the first is dropped. A block scalar keeps its breaks, or folds them between lines that are not
indented further.
-/

namespace Filing.Yaml

/-- The text that blanks and line breaks between two words become: blanks of one line are kept; the
first break is a space where no other follows it. -/
def foldSpace (blanks : List Char) (breaks : List (List Char)) : List Char :=
  match breaks with
  | [] => blanks
  | first :: more =>
    if first = ['\n'] then if more.isEmpty then [' '] else more.flatten
    else first ++ more.flatten

/-- Blanks and line breaks: the blanks before the first break, the breaks, and whether a tab stands in
a line before the column `indent`. -/
def takeSpace (indent : Int) : Nat → Cursor → List Char → List (List Char) → Bool →
    List Char × List (List Char) × Bool × Cursor
  | 0, k, blanks, breaks, tab => (blanks.reverse, breaks.reverse, tab, k)
  | fuel + 1, k, blanks, breaks, tab =>
    match k.rest with
    | c :: _ =>
      if isBlank c then
        if breaks.isEmpty then takeSpace indent fuel (k.skip 1) (c :: blanks) breaks tab
        else
          takeSpace indent fuel (k.skip 1) blanks breaks (tab || (c = '\t' && k.column < indent))
      else if isBreak c then
        let (text, k) := k.takeBreak
        takeSpace indent fuel k blanks (text :: breaks) tab
      else (blanks.reverse, breaks.reverse, tab, k)
    | [] => (blanks.reverse, breaks.reverse, tab, k)

def isFlowIndicator (c : Char) : Bool := ",[]\x7b\x7d".toList.contains c

/-- The characters of a plain scalar up to a blank, a line break or what ends it. `none` when a colon
stands before an indicator inside of brackets. -/
def plainWord (inFlow : Bool) : Nat → Cursor → List Char → Option (List Char × Cursor)
  | 0, k, word => some (word.reverse, k)
  | fuel + 1, k, word =>
    match k.rest with
    | [] => some (word.reverse, k)
    | c :: _ =>
      if k.isSpaceAt 0 then some (word.reverse, k)
      else if inFlow && c = ':' && (k.at? 1).any fun d => isFlowIndicator d || d = '?' then none
      else if (c = ':' && k.isSpaceAt 1) || (inFlow && isFlowIndicator c) then
        some (word.reverse, k)
      else plainWord inFlow fuel (k.skip 1) (c :: word)

/-- A plain scalar with the lines that belong to it: those that are indented by `indent` columns. Gives
also whether the last thing passed was the end of a line. -/
def plainText (inFlow : Bool) (indent : Int) : Nat → Cursor → List Char → List Char → Bool →
    Option (List Char × Bool × Cursor)
  | 0, _, _, _, _ => none
  | fuel + 1, k, text, space, crossed =>
    if k.atDocumentMark || k.isAt 0 '#' then some (text, crossed, k)
    else do
      let (word, after) ← plainWord inFlow (k.rest.length + 1) k []
      let (text, crossed) := if word.isEmpty then (text, crossed) else (text ++ space ++ word, false)
      match after.rest with
      | c :: _ =>
        if isBlank c || isBreak c then
          let (blanks, breaks, tab, next) := takeSpace indent (after.rest.length + 1) after [] [] false
          if tab then none
          else
            let crossed := !breaks.isEmpty
            if !inFlow && next.column < indent then some (text, crossed, next)
            else plainText inFlow indent fuel next text (foldSpace blanks breaks) crossed
        else some (text, crossed, after)
      | [] => some (text, crossed, after)

def escapes : List (Char × Char) :=
  [('0', '\x00'), ('a', '\x07'), ('b', '\x08'), ('t', '\t'), ('\t', '\t'), ('n', '\n'),
    ('v', '\x0b'), ('f', '\x0c'), ('r', '\r'), ('e', '\x1b'), (' ', ' '), ('"', '"'), ('/', '/'),
    ('\\', '\\'), ('N', '\u0085'), ('_', '\u00a0'), ('L', '\u2028'), ('P', '\u2029')]

def hexLength? (c : Char) : Option Nat :=
  if c = 'x' then some 2 else if c = 'u' then some 4 else if c = 'U' then some 8 else none

def escaped? : List Char → Option (Char × Nat)
  | [] => none
  | c :: rest =>
    match hexLength? c with
    | some count =>
      let ds := rest.take count
      if ds.length < count then none
      else do
        let n ← Scalar.natInBase? 16 ds
        if (0xD800 ≤ n && n < 0xE000) || 0x10FFFF < n then none
        else return (.ofNat n, count + 1)
    | none => (escapes.lookup c).map (·, 1)

/-- The characters of a quoted scalar up to a blank, a line break or the closing quote. Gives also
whether an escaped line break came last. -/
def quotedWord (single : Bool) : Nat → Cursor → List Char → Option (List Char × Bool × Cursor)
  | 0, _, _ => none
  | fuel + 1, k, word =>
    match k.rest with
    | [] => some (word.reverse, false, k)
    | c :: rest =>
      if k.isSpaceAt 0 then some (word.reverse, false, k)
      else if single then
        if c = '\'' then
          if k.isAt 1 '\'' then quotedWord single fuel (k.skip 2) ('\'' :: word)
          else some (word.reverse, false, k)
        else quotedWord single fuel (k.skip 1) (c :: word)
      else if c = '"' then some (word.reverse, false, k)
      else if c = '\\' then
        if (k.at? 1).any isBreak then some (word.reverse, true, ((k.skip 1).takeBreak).2)
        else do
          let (d, count) ← escaped? rest
          quotedWord single fuel (k.skip (count + 1)) (d :: word)
      else quotedWord single fuel (k.skip 1) (c :: word)

def quotedText (single : Bool) : Nat → Cursor → List Char → Option (List Char × Cursor)
  | 0, _, _ => none
  | fuel + 1, k, text =>
    if k.atDocumentMark || k.rest.isEmpty then none
    else do
      let (word, joined, k) ← quotedWord single (k.rest.length + 1) k []
      let text := text ++ word
      if k.isAt 0 (if single then '\'' else '"') then return (text, k.skip 1)
      else
        let start := if joined then [[]] else []
        let (blanks, breaks, _, k) := takeSpace 0 (k.rest.length + 1) k [] start false
        quotedText single fuel k (text ++ foldSpace blanks breaks)

inductive Chomping where
  | strip
  | clip
  | keep
deriving DecidableEq

def blockHeader? (k : Cursor) : Option (Chomping × Nat × Cursor) :=
  let chomping? (k : Cursor) : Option Chomping :=
    if k.isAt 0 '+' then some .keep else if k.isAt 0 '-' then some .strip else none
  let indent? (k : Cursor) : Option Nat :=
    match k.rest with
    | c :: _ => if c.isDigit then some (c.toNat - '0'.toNat) else none
    | [] => none
  match chomping? k with
  | some chomping =>
    match indent? (k.skip 1) with
    | some 0 => none
    | some n => some (chomping, n, k.skip 2)
    | none => some (chomping, 0, k.skip 1)
  | none =>
    match indent? k with
    | some 0 => none
    | some n =>
      match chomping? (k.skip 1) with
      | some chomping => some (chomping, n, k.skip 2)
      | none => some (.clip, n, k.skip 1)
    | none => some (.clip, 0, k)

/-- Empty lines of a block scalar: their breaks, the greatest column met, and the place of the next
line's text. An indentation of zero is not known yet. `none` when a tab stands in the indentation. -/
def blockBreaks (indent : Nat) : Nat → Cursor → List Char → Nat →
    Option (List Char × Nat × Cursor)
  | 0, _, _, _ => none
  | fuel + 1, k, breaks, greatest =>
    let spaces := (k.rest.takeWhile (· = ' ')).length
    let count := if indent = 0 then spaces else min spaces (indent - k.column)
    let k := k.skip count
    let greatest := max greatest k.column
    if (indent = 0 || k.column < indent) && k.isAt 0 '\t' then none
    else
      match k.rest with
      | c :: _ =>
        if isBreak c then
          let (text, k) := k.takeBreak
          blockBreaks indent fuel k (breaks ++ text) greatest
        else some (breaks, greatest, k)
      | [] => some (breaks, greatest, k)

def blockLines (literal : Bool) (indent : Nat) : Nat → Cursor → List Char → List Char → List Char →
    Bool → Option (List Char × List Char × List Char × Cursor)
  | 0, _, _, _, _, _ => none
  | fuel + 1, k, text, leading, trailing, leadingBlank =>
    if k.column ≠ indent || k.rest.isEmpty then some (text, leading, trailing, k)
    else do
      let blank := (k.at? 0).any isBlank
      let between :=
        if !literal && leading.head? = some '\n' && !leadingBlank && !blank then
          if trailing.isEmpty then [' '] else []
        else leading
      let (line, k) := k.takeWhile fun c => !isBreak c
      let text := text ++ between ++ trailing ++ line
      let (leading, k) := k.takeBreak
      let (trailing, _, k) ← blockBreaks indent (k.rest.length + 1) k [] 0
      blockLines literal indent fuel k text leading trailing blank

/-- A block scalar after its indicator; `parent` is the column of the collection it stands in. -/
def blockText (literal : Bool) (parent : Int) (k : Cursor) : Option (List Char × Cursor) := do
  let (chomping, increment, k) ← blockHeader? k
  let k := k.skipBlanks.skipComment
  if !k.atLineEnd then none
  else
    let k := k.takeBreak.2
    let given := if increment = 0 then 0 else (if 0 ≤ parent then parent.toNat else 0) + increment
    let (trailing, greatest, k) ← blockBreaks given (k.rest.length + 1) k [] 0
    let indent := if given = 0 then max (max greatest (parent + 1).toNat) 1 else given
    let (text, leading, trailing, k) ←
      blockLines literal indent (k.rest.length + 1) k [] [] trailing false
    let text := if chomping = .strip then text else text ++ leading
    return (if chomping = .keep then text ++ trailing else text, k)

end Filing.Yaml
