import Filing.Json.Value
import Filing.Double.Text

/-!
# The text of a JSON value

`Json.text` writes a value without any space, `Json.pretty` over several lines with two spaces for each
level. Members are written in the order in which the value holds them. A string escapes the quote, the
backslash and the control characters, and nothing else. A double that is not finite is written `null`.
-/

namespace Filing.Json

def hexDigit (n : Nat) : Char := Nat.digitChar (n % 16)

def escape (c : Char) : List Char :=
  if c = '"' then ['\\', '"']
  else if c = '\\' then ['\\', '\\']
  else if 0x20 ≤ c.toNat then [c]
  else if c.toNat = 0x08 then ['\\', 'b']
  else if c.toNat = 0x0C then ['\\', 'f']
  else if c = '\n' then ['\\', 'n']
  else if c = '\r' then ['\\', 'r']
  else if c = '\t' then ['\\', 't']
  else ['\\', 'u', '0', '0', hexDigit (c.toNat / 16), hexDigit c.toNat]

def quote (s : String) : List Char := '"' :: s.toList.flatMap escape ++ ['"']

def intChars (n : Int) : List Char :=
  if n < 0 then '-' :: Double.digitChars n.natAbs else Double.digitChars n.natAbs

/-- A double, or `null` in place of one that is not finite. -/
def doubleChars (x : Double) : List Char :=
  if x.isFinite then x.chars else "null".toList

mutual

def chars : Json → List Char
  | .null => "null".toList
  | .bool true => "true".toList
  | .bool false => "false".toList
  | .int n => intChars n
  | .double x => doubleChars x
  | .string s => quote s
  | .array [] => ['[', ']']
  | .array (x :: xs) => '[' :: chars x ++ itemsChars xs ++ [']']
  | .object [] => ['{', '}']
  | .object ((k, x) :: ms) => '{' :: quote k ++ ':' :: chars x ++ membersChars ms ++ ['}']

def itemsChars : List Json → List Char
  | [] => []
  | x :: xs => ',' :: chars x ++ itemsChars xs

def membersChars : List (String × Json) → List Char
  | [] => []
  | (k, x) :: ms => ',' :: quote k ++ ':' :: chars x ++ membersChars ms

end

def text (json : Json) : String := .ofList json.chars

def newline (level : Nat) : List Char := '\n' :: List.replicate (2 * level) ' '

mutual

def prettyChars (level : Nat) : Json → List Char
  | .array (x :: xs) =>
    '[' :: newline (level + 1) ++ prettyChars (level + 1) x ++ prettyItems (level + 1) xs
      ++ newline level ++ [']']
  | .object ((k, x) :: ms) =>
    '{' :: newline (level + 1) ++ quote k ++ ':' :: ' ' :: prettyChars (level + 1) x
      ++ prettyMembers (level + 1) ms ++ newline level ++ ['}']
  | .null => "null".toList
  | .bool true => "true".toList
  | .bool false => "false".toList
  | .int n => intChars n
  | .double x => doubleChars x
  | .string s => quote s
  | .array [] => ['[', ']']
  | .object [] => ['{', '}']

def prettyItems (level : Nat) : List Json → List Char
  | [] => []
  | x :: xs => ',' :: newline level ++ prettyChars level x ++ prettyItems level xs

def prettyMembers (level : Nat) : List (String × Json) → List Char
  | [] => []
  | (k, x) :: ms =>
    ',' :: newline level ++ quote k ++ ':' :: ' ' :: prettyChars level x ++ prettyMembers level ms

end

def pretty (json : Json) : String := .ofList (json.prettyChars 0)

end Filing.Json
