import Filing.Text.Blank
import Filing.Text.CaseRuns
import Filing.Text.Category

/-!
# Classes of characters in patterns

A class is kept as it is written, so that two classes are compared without going through the tables.
-/

namespace Filing

inductive CharProperty where
  | word
  | digit
  | blank
  | any
  | ascii
  | assigned
  | alphabetic
  | cased
  | uppercase
  | lowercase
  | titlecase
  | modifierLetter
  | otherLetter
  | letter
  | nonspacingMark
  | spacingMark
  | enclosingMark
  | mark
  | letterNumber
  | otherNumber
  | number
  | connector
  | dash
  | openMark
  | closeMark
  | initialQuote
  | finalQuote
  | otherPunctuation
  | punctuation
  | mathSymbol
  | currencySymbol
  | modifierSymbol
  | otherSymbol
  | symbol
  | spaceSeparator
  | lineSeparator
  | paragraphSeparator
  | separator
  | control
  | format
  | privateUse
deriving DecidableEq, Repr

namespace CharProperty

open Text in
def ranges : CharProperty → Ranges
  | .word => wordCharacters
  | .digit => decimalNumbers
  | .blank => blanks
  | .any => everything
  | .ascii => [(0, 0x7F)]
  | .assigned =>
    letters ++ marks ++ numbers ++ Text.punctuation ++ symbols ++ separators ++ controls ++ formats
      ++ Text.privateUse
  | .alphabetic => letters ++ letterNumbers ++ enclosedLetters
  | .cased => casedLetters
  | .uppercase => uppercaseLetters
  | .lowercase => lowercaseLetters
  | .titlecase => titlecaseLetters
  | .modifierLetter => modifierLetters
  | .otherLetter => otherLetters
  | .letter => letters
  | .nonspacingMark => nonspacingMarks
  | .spacingMark => spacingMarks
  | .enclosingMark => enclosingMarks
  | .mark => marks
  | .letterNumber => letterNumbers
  | .otherNumber => otherNumbers
  | .number => numbers
  | .connector => connectorPunctuation
  | .dash => dashPunctuation
  | .openMark => openPunctuation
  | .closeMark => closePunctuation
  | .initialQuote => initialPunctuation
  | .finalQuote => finalPunctuation
  | .otherPunctuation => Text.otherPunctuation
  | .punctuation => Text.punctuation
  | .mathSymbol => mathSymbols
  | .currencySymbol => currencySymbols
  | .modifierSymbol => modifierSymbols
  | .otherSymbol => otherSymbols
  | .symbol => symbols
  | .spaceSeparator => spaceSeparators
  | .lineSeparator => lineSeparators
  | .paragraphSeparator => paragraphSeparators
  | .separator => separators
  | .control => controls
  | .format => formats
  | .privateUse => Text.privateUse

def names : List (String × CharProperty) :=
  [("any", .any), ("ascii", .ascii), ("assigned", .assigned), ("alphabetic", .alphabetic),
    ("alpha", .alphabetic), ("whitespace", .blank), ("space", .blank),
    ("l", .letter), ("letter", .letter), ("lc", .cased), ("casedletter", .cased),
    ("lu", .uppercase), ("uppercaseletter", .uppercase), ("uppercase", .uppercase),
    ("ll", .lowercase), ("lowercaseletter", .lowercase), ("lowercase", .lowercase),
    ("lt", .titlecase), ("titlecaseletter", .titlecase),
    ("lm", .modifierLetter), ("modifierletter", .modifierLetter),
    ("lo", .otherLetter), ("otherletter", .otherLetter),
    ("m", .mark), ("mark", .mark), ("combiningmark", .mark),
    ("mn", .nonspacingMark), ("nonspacingmark", .nonspacingMark),
    ("mc", .spacingMark), ("spacingmark", .spacingMark),
    ("me", .enclosingMark), ("enclosingmark", .enclosingMark),
    ("n", .number), ("number", .number), ("nd", .digit), ("decimalnumber", .digit),
    ("digit", .digit), ("nl", .letterNumber), ("letternumber", .letterNumber),
    ("no", .otherNumber), ("othernumber", .otherNumber),
    ("p", .punctuation), ("punctuation", .punctuation), ("punct", .punctuation),
    ("pc", .connector), ("connectorpunctuation", .connector),
    ("pd", .dash), ("dashpunctuation", .dash), ("ps", .openMark), ("openpunctuation", .openMark),
    ("pe", .closeMark), ("closepunctuation", .closeMark),
    ("pi", .initialQuote), ("initialpunctuation", .initialQuote),
    ("pf", .finalQuote), ("finalpunctuation", .finalQuote),
    ("po", .otherPunctuation), ("otherpunctuation", .otherPunctuation),
    ("s", .symbol), ("symbol", .symbol), ("sm", .mathSymbol), ("mathsymbol", .mathSymbol),
    ("sc", .currencySymbol), ("currencysymbol", .currencySymbol),
    ("sk", .modifierSymbol), ("modifiersymbol", .modifierSymbol),
    ("so", .otherSymbol), ("othersymbol", .otherSymbol),
    ("z", .separator), ("separator", .separator),
    ("zs", .spaceSeparator), ("spaceseparator", .spaceSeparator),
    ("zl", .lineSeparator), ("lineseparator", .lineSeparator),
    ("zp", .paragraphSeparator), ("paragraphseparator", .paragraphSeparator),
    ("cc", .control), ("control", .control), ("cntrl", .control), ("cf", .format),
    ("format", .format), ("co", .privateUse), ("privateuse", .privateUse)]

/-- The class with a name; case, blanks, hyphens and underscores in it do not matter. -/
def ofName? (name : List Char) : Option CharProperty :=
  let plain := (name.filter fun c => c ≠ ' ' && c ≠ '_' && c ≠ '-').map Char.toLower
  let plain := match plain with
    | 'i' :: 's' :: rest => if rest.isEmpty then plain else rest
    | _ => plain
  names.lookup (.ofList plain)

end CharProperty

inductive CharClass where
  | range (first last : Nat)
  | property (property : CharProperty)
  | nothing
  | union (a b : CharClass)
  | inter (a b : CharClass)
  | diff (a b : CharClass)
  | not (a : CharClass)
  /-- The class with all characters that differ from one of its own in case only. -/
  | folded (a : CharClass)
  | foldedAscii (a : CharClass)
deriving DecidableEq, Repr

namespace CharClass

def char (c : Char) : CharClass := .range c.toNat c.toNat

def caseVariants (n : Nat) : List Nat :=
  let fold := Text.mapCase Text.foldRuns n
  n :: fold :: Text.foldRuns.filterMap fun run =>
    let source := ((fold : Int) - run.offset).toNat
    if run.has source then some source else none

def asciiVariants (n : Nat) : List Nat :=
  if 0x41 ≤ n && n ≤ 0x5A then [n, n + 0x20]
  else if 0x61 ≤ n && n ≤ 0x7A then [n, n - 0x20]
  else [n]

def has (n : Nat) : CharClass → Bool
  | .range a b => a ≤ n && n ≤ b
  | .property p => p.ranges.has n
  | .nothing => false
  | .union a b => a.has n || b.has n
  | .inter a b => a.has n && b.has n
  | .diff a b => a.has n && !b.has n
  | .not a => !a.has n
  | .folded a => (caseVariants n).any fun m => a.has m
  | .foldedAscii a => (asciiVariants n).any fun m => a.has m

def ofList : List CharClass → CharClass
  | [] => .nothing
  | [a] => a
  | a :: rest => .union a (ofList rest)

/-- Whether a class has no character outside of ASCII. A complement always has one. -/
def isAscii : CharClass → Bool
  | .range _ b => b < 0x80
  | .property _ => false
  | .nothing => true
  | .union a b => a.isAscii && b.isAscii
  | .inter a b => a.isAscii || b.isAscii
  | .diff a _ => a.isAscii
  | .not _ => false
  | .folded _ => false
  | .foldedAscii a => a.isAscii

end CharClass

def isWordChar (c : Char) : Bool := Text.wordCharacters.contains c

end Filing
