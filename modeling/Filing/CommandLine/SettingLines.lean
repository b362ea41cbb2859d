import Filing.Json.Value
import Filing.Node.Scalar
import Filing.Text.Blank

/-!
# Settings by line

The plainest files of settings have one setting on a line: a name, an equals sign and a value. A line in
brackets names the part that the following lines belong to, and a setting of a part is known by the names
of both with a dot between them. There are two dialects. In the typed one a text stands in quotes, and
lists and tables are written within the line; in the untyped one every value is a text.
-/

namespace Filing.CommandLine

inductive SettingLine where
  | blank
  | part (name : String)
  | setting (name : String) (value : Json)

namespace SettingLine

def skipSpaces (cs : List Char) : List Char := cs.dropWhile fun c => c = ' ' || c = '\t'

def isEnd (cs : List Char) : Bool :=
  match skipSpaces cs with
  | [] => true
  | c :: _ => c = '#'

/-- The character of an escape inside of quotes, and what follows it. -/
def escaped? : List Char → Option (Char × List Char)
  | 'n' :: cs => some ('\n', cs)
  | 't' :: cs => some ('\t', cs)
  | 'r' :: cs => some ('\r', cs)
  | 'b' :: cs => some ('\x08', cs)
  | 'f' :: cs => some ('\x0c', cs)
  | '"' :: cs => some ('"', cs)
  | '\\' :: cs => some ('\\', cs)
  | 'u' :: cs => codePoint? 4 cs
  | 'U' :: cs => codePoint? 8 cs
  | _ => none
where
  codePoint? (width : Nat) (cs : List Char) : Option (Char × List Char) := do
    let n ← if cs.length < width then none else Scalar.natInBase? 16 (cs.take width)
    if n.isValidChar then some (.ofNat n, cs.drop width) else none

def quotedText? : Nat → List Char → Option (List Char × List Char)
  | _, '"' :: cs => some ([], cs)
  | fuel + 1, '\\' :: cs => do
    let (c, cs) ← escaped? cs
    let (text, rest) ← quotedText? fuel cs
    return (c :: text, rest)
  | fuel + 1, c :: cs => do
    let (text, rest) ← quotedText? fuel cs
    return (c :: text, rest)
  | _, _ => none

/-- A text in quotes, with escapes inside of double ones only. -/
def quoted? : List Char → Option (String × List Char)
  | '"' :: cs => (quotedText? cs.length cs).map fun (text, rest) => (.ofList text, rest)
  | '\'' :: cs =>
    match cs.span (· ≠ '\'') with
    | (text, _ :: rest) => some (.ofList text, rest)
    | _ => none
  | _ => none

/-- A truth value or a number; the digits of a number may be divided by underscores. -/
def word? (cs : List Char) : Option Json :=
  let s := String.ofList cs
  let digits := cs.filter (· ≠ '_')
  if s = "true" then some (.bool true)
  else if s = "false" then some (.bool false)
  else
    match Scalar.intOfText? (.ofList digits) with
    | some n => some (.int n)
    | none => if Scalar.isZeroPadded digits then none else (Double.ofChars? digits).map .double

def isNameChar (c : Char) : Bool := c.isAlphanum || c = '_' || c = '-'

/-- A name, plain or in quotes; names with dots between them are one. -/
def name? : Nat → List Char → Option (String × List Char)
  | 0, _ => none
  | fuel + 1, cs => do
    let (name, rest) ← match cs.span isNameChar with
      | ([], cs) => quoted? cs
      | (name, rest) => some (String.ofList name, rest)
    match skipSpaces rest with
    | '.' :: rest => do
      let (more, rest) ← name? fuel (skipSpaces rest)
      return (name ++ "." ++ more, rest)
    | rest => return (name, rest)

def isWordChar (c : Char) : Bool := isNameChar c || c = '+' || c = '.' || c = ':'

mutual

def value? : Nat → List Char → Option (Json × List Char)
  | 0, _ => none
  | fuel + 1, '[' :: cs => (items? fuel (skipSpaces cs)).map fun (xs, rest) => (.array xs, rest)
  | fuel + 1, '{' :: cs =>
    match skipSpaces cs with
    | '}' :: rest => some (.object [], rest)
    | cs => (members? fuel cs).map fun (ms, rest) => (.ofMembers ms, rest)
  | _ + 1, cs =>
    match quoted? cs with
    | some (text, rest) => some (.string text, rest)
    | none => (word? (cs.takeWhile isWordChar)).map (·, cs.dropWhile isWordChar)

def items? : Nat → List Char → Option (List Json × List Char)
  | 0, _ => none
  | _ + 1, ']' :: rest => some ([], rest)
  | fuel + 1, cs => do
    let (x, rest) ← value? fuel cs
    match skipSpaces rest with
    | ',' :: rest => do
      let (xs, rest) ← items? fuel (skipSpaces rest)
      return (x :: xs, rest)
    | ']' :: rest => return ([x], rest)
    | _ => none

def members? : Nat → List Char → Option (List (String × Json) × List Char)
  | 0, _ => none
  | fuel + 1, cs => do
    let (name, rest) ← name? (cs.length + 1) cs
    let rest ← match skipSpaces rest with
      | '=' :: rest => some (skipSpaces rest)
      | _ => none
    let (x, rest) ← value? fuel rest
    match skipSpaces rest with
    | ',' :: rest => do
      let (ms, rest) ← members? fuel (skipSpaces rest)
      return ((name, x) :: ms, rest)
    | '}' :: rest => return ([(name, x)], rest)
    | _ => none

end

def ofTyped? (line : List Char) : Option SettingLine :=
  match skipSpaces line with
  | [] | '#' :: _ => some .blank
  | '[' :: cs => do
    let (name, rest) ← name? (cs.length + 1) (skipSpaces cs)
    match rest with
    | ']' :: rest => if isEnd rest then some (.part name) else none
    | _ => none
  | cs => do
    let (name, rest) ← name? (cs.length + 1) cs
    match rest with
    | '=' :: rest => do
      let (value, rest) ← value? (2 * rest.length + 2) (skipSpaces rest)
      if isEnd rest then some (.setting name value) else none
    | _ => none

/-- A line of the untyped dialect, where a semicolon begins a comment too and a colon may stand for the
equals sign. -/
def ofUntyped? (line : List Char) : Option SettingLine :=
  match Text.trim line with
  | [] | '#' :: _ | ';' :: _ => some .blank
  | '[' :: cs =>
    match cs.span (· ≠ ']') with
    | (name, _ :: _) => some (.part (.ofList (Text.trim name)))
    | _ => none
  | cs =>
    match cs.span fun c => c ≠ '=' && c ≠ ':' with
    | (name, _ :: rest) =>
      let value := Text.trim rest
      let text := match quoted? value with
        | some (text, _) => text
        | none => String.ofList value
      some (.setting (.ofList (Text.trim name)) (.string text))
    | _ => none

def settings (start : String) : List SettingLine → List (String × Json)
  | [] => []
  | .blank :: lines => settings start lines
  | .part name :: lines => settings (name ++ ".") lines
  | .setting name value :: lines => (start ++ name, value) :: settings start lines

def settingsOfText? (read : List Char → Option SettingLine) (text : String) :
    Option (List (String × Json)) :=
  let lines := (text.toList.splitOnP (· = '\n')).map fun line =>
    if line.getLast? = some '\r' then line.dropLast else line
  (lines.mapM read).map (settings "")

end SettingLine

end Filing.CommandLine
