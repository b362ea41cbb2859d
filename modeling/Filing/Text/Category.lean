import Filing.Text.Category.Letter
import Filing.Text.Category.Mark
import Filing.Text.Category.Number
import Filing.Text.Category.Punctuation
import Filing.Text.Category.Separator
import Filing.Text.Category.Symbol

/-!
# Classes of characters

Classes put together from the general categories: letters, marks, numbers, the characters of words, and
those that are printed as they are.
-/

namespace Filing.Text

def casedLetters : Ranges := uppercaseLetters ++ lowercaseLetters ++ titlecaseLetters

def letters : Ranges := casedLetters ++ modifierLetters ++ otherLetters

def marks : Ranges := nonspacingMarks ++ spacingMarks ++ enclosingMarks

def numbers : Ranges := decimalNumbers ++ letterNumbers ++ otherNumbers

def punctuation : Ranges :=
  connectorPunctuation ++ dashPunctuation ++ openPunctuation ++ closePunctuation
    ++ initialPunctuation ++ finalPunctuation ++ otherPunctuation

def symbols : Ranges := mathSymbols ++ currencySymbols ++ modifierSymbols ++ otherSymbols

def separators : Ranges := spaceSeparators ++ lineSeparators ++ paragraphSeparators

def everything : Ranges := [(0, 0xD7FF), (0xE000, 0x10FFFF)]

/-- Symbols that count as letters: the circled and squared ones. -/
def enclosedLetters : Ranges :=
  [(0x24B6, 0x24E9), (0x1F130, 0x1F149), (0x1F150, 0x1F169), (0x1F170, 0x1F189)]

def wordCharacters : Ranges :=
  [(0x30, 0x39), (0x41, 0x5A), (0x5F, 0x5F), (0x61, 0x7A), (0x200C, 0x200D)]
    ++ letters ++ marks ++ decimalNumbers ++ letterNumbers ++ connectorPunctuation
    ++ enclosedLetters

def extenders : Ranges :=
  nonspacingMarks ++ enclosingMarks ++
  [(0x9BE, 0x9BE), (0x9D7, 0x9D7), (0xB3E, 0xB3E), (0xB57, 0xB57), (0xBBE, 0xBBE), (0xBD7, 0xBD7),
    (0xCC2, 0xCC2), (0xCD5, 0xCD6), (0xD3E, 0xD3E), (0xD57, 0xD57), (0xDCF, 0xDCF), (0xDDF, 0xDDF),
    (0x1B35, 0x1B35), (0x200C, 0x200C), (0x302E, 0x302F), (0xFF9E, 0xFF9F), (0x1133E, 0x1133E),
    (0x11357, 0x11357), (0x114B0, 0x114B0), (0x114BD, 0x114BD), (0x115AF, 0x115AF),
    (0x11930, 0x11930), (0x1D165, 0x1D165), (0x1D16E, 0x1D172), (0xE0020, 0xE007F)]

/-- Characters that are shown as they are: everything assigned but controls, formats and
separators other than the space. -/
def isPrintable (c : Char) : Bool :=
  c = ' ' || letters.contains c || marks.contains c || numbers.contains c
    || punctuation.contains c || symbols.contains c

end Filing.Text
