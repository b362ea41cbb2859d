/-!
# Places in a text

A cursor is the rest of a text with its line, its column and the number of characters before it. Five
characters end a line; a carriage return and a line feed together end one line. All ends of lines but
the two separators are read as a line feed.
-/

namespace Filing.Yaml

structure Cursor where
  rest : List Char
  line : Nat
  column : Nat
  index : Nat

def isBreak (c : Char) : Bool :=
  c = '\n' || c = '\r' || c = '\u0085' || c = '\u2028' || c = '\u2029'

def isBlank (c : Char) : Bool := c = ' ' || c = '\t'

def isNameChar (c : Char) : Bool := c.isAlphanum || c = '_' || c = '-'

def isAllowed (c : Char) : Bool :=
  let n := c.toNat
  n = 0x9 || n = 0xA || n = 0xD || (0x20 ≤ n && n ≤ 0x7E) || n = 0x85
    || (0xA0 ≤ n && n ≤ 0xFFFD && n ≠ 0xFEFF) || 0x10000 ≤ n

namespace Cursor

def at? (k : Cursor) (offset : Nat) : Option Char := k.rest[offset]?

def isAt (k : Cursor) (offset : Nat) (c : Char) : Bool := k.at? offset == some c

def isSpaceAt (k : Cursor) (offset : Nat) : Bool :=
  (k.at? offset).all fun c => isBlank c || isBreak c

def atLineEnd (k : Cursor) : Bool := (k.at? 0).all isBreak

def skip (k : Cursor) (count : Nat) : Cursor :=
  ⟨k.rest.drop count, k.line, k.column + count, k.index + count⟩

/-- Passes the end of a line, if there is one here, and gives what it reads as. -/
def takeBreak (k : Cursor) : List Char × Cursor :=
  match k.rest with
  | '\r' :: '\n' :: rest => (['\n'], ⟨rest, k.line + 1, 0, k.index + 2⟩)
  | c :: rest =>
    if c = '\u2028' || c = '\u2029' then ([c], ⟨rest, k.line + 1, 0, k.index + 1⟩)
    else if isBreak c then (['\n'], ⟨rest, k.line + 1, 0, k.index + 1⟩)
    else ([], k)
  | [] => ([], k)

def takeWhile (k : Cursor) (p : Char → Bool) : List Char × Cursor :=
  let cs := k.rest.takeWhile p
  (cs, k.skip cs.length)

def skipBlanks (k : Cursor) : Cursor := (k.takeWhile isBlank).2

def skipComment (k : Cursor) : Cursor :=
  if k.isAt 0 '#' then (k.takeWhile fun c => !isBreak c).2 else k

/-- Whether the mark of a document's start or end stands here, at the start of a line. -/
def atDocumentMark (k : Cursor) : Bool :=
  k.column = 0 && k.isSpaceAt 3 && (k.rest.take 3 == ['-', '-', '-'] || k.rest.take 3 == ['.', '.', '.'])

end Cursor

end Filing.Yaml
