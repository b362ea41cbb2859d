import Filing.Text.Category

/-!
# Texts in quotes

A text shown in a message stands in double quotes. The quote, the backslash and the usual controls have
short escapes; any other character that is not printable, or that would join the one before it, is
written with its code point in braces.
-/

namespace Filing.Text

def hexChars (n : Nat) : List Char := Nat.toDigits 16 n

def showChar (c : Char) : List Char :=
  if c = '"' then ['\\', '"']
  else if c = '\\' then ['\\', '\\']
  else if c = '\n' then ['\\', 'n']
  else if c = '\r' then ['\\', 'r']
  else if c = '\t' then ['\\', 't']
  else if c.toNat = 0 then ['\\', '0']
  else if 0x20 ≤ c.toNat && c.toNat < 0x7F then [c]
  else if extenders.contains c || !isPrintable c then
    '\\' :: 'u' :: '{' :: hexChars c.toNat ++ ['}']
  else [c]

def quoted (s : String) : String := .ofList ('"' :: s.toList.flatMap showChar ++ ['"'])

end Filing.Text
