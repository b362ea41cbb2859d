import Filing.Node.Scalar
import Filing.Yaml.Cursor

/-!
# The texts of tags, anchors and directives

A tag is a handle, which stands for the start of a URI, and the rest of the URI; a tag in angle
brackets is a whole URI. Characters of a URI may be written as the hexadecimal digits of their bytes.
-/

namespace Filing.Yaml

/-- Characters of a URI; commas and brackets only where a URI stands alone. -/
def isUriChar (alone : Bool) (c : Char) : Bool :=
  isNameChar c || ";/?:@&=+$.!~*'()".toList.contains c || (alone && ",[]".toList.contains c)

def uriByte? : List Char → Option (Nat × List Char)
  | '%' :: a :: b :: rest => (Scalar.natInBase? 16 [a, b]).map (·, rest)
  | _ => none

def uriMoreBytes? : Nat → Nat → List Char → Option (Nat × List Char)
  | 0, n, cs => some (n, cs)
  | count + 1, n, cs => do
    let (byte, rest) ← uriByte? cs
    if byte / 64 = 2 then uriMoreBytes? count (64 * n + byte % 64) rest else none

def uriEscape? (cs : List Char) : Option (Char × Nat) := do
  let (byte, rest) ← uriByte? cs
  let (more, bits) ←
    if byte < 0x80 then some (0, byte)
    else if byte / 32 = 6 then some (1, byte % 32)
    else if byte / 16 = 14 then some (2, byte % 16)
    else if byte / 8 = 30 then some (3, byte % 8)
    else none
  let (n, _) ← uriMoreBytes? more bits rest
  return (.ofNat n, more + 1)

def uriText? (alone : Bool) : Nat → Cursor → List Char → Option (List Char × Cursor)
  | 0, _, _ => none
  | fuel + 1, k, text =>
    match k.rest with
    | [] => some (text.reverse, k)
    | c :: _ =>
      if c = '%' then do
        let (d, count) ← uriEscape? k.rest
        uriText? alone fuel (k.skip (3 * count)) (d :: text)
      else if isUriChar alone c then uriText? alone fuel (k.skip 1) (c :: text)
      else some (text.reverse, k)

namespace Cursor

def takeUri? (k : Cursor) : Option (List Char × Cursor) := do
  let (uri, k) ← uriText? true (k.rest.length + 1) k []
  if uri.isEmpty then none else return (uri, k)

def takeHandle? (k : Cursor) : Option (List Char × Cursor) :=
  if !k.isAt 0 '!' then none
  else
    let (name, k) := (k.skip 1).takeWhile isNameChar
    if k.isAt 0 '!' then some ('!' :: name ++ ['!'], k.skip 1) else some ('!' :: name, k)

/-- A tag as a handle and the rest. A whole URI has no handle, and neither has a lone exclamation
mark. A name without a second mark belongs to the rest. -/
def takeTag? (k : Cursor) : Option (String × String × Cursor) :=
  if k.isAt 1 '<' then do
    let (uri, k) ← (k.skip 2).takeUri?
    if k.isAt 0 '>' then return ("", .ofList uri, k.skip 1) else none
  else do
    let (handle, k) ← k.takeHandle?
    let (uri, next) ← uriText? false (k.rest.length + 1) k []
    if 2 ≤ handle.length && handle.getLast? = some '!' then
      if uri.isEmpty then none else return (.ofList handle, .ofList uri, next)
    else
      let rest := handle.drop 1 ++ uri
      if rest.isEmpty then return ("", "!", next) else return ("!", .ofList rest, next)

def takeAnchor? (k : Cursor) : Option (String × Cursor) :=
  let (name, k) := k.takeWhile isNameChar
  if name.isEmpty then none
  else if k.isSpaceAt 0 || (k.at? 0).any "?:,]\x7d%@`".toList.contains then some (.ofList name, k)
  else none

def takeVersionPart? (k : Cursor) : Option (Nat × Cursor) :=
  let (ds, k) := k.takeWhile Double.isDigit
  if ds.isEmpty || 9 < ds.length then none else some (Double.natOfDigits ds, k)

end Cursor

/-- A directive gives the version of the format, or the start of the URIs of a handle's tags. -/
inductive Directive where
  | version (major minor : Nat)
  | handle (name uri : String)

def Cursor.takeDirective? (k : Cursor) : Option (Directive × Cursor) := do
  let (name, k) := (k.skip 1).takeWhile isNameChar
  if name.isEmpty || !k.isSpaceAt 0 then none
  else
    let k := k.skipBlanks
    let (directive, k) ←
      if name = "YAML".toList then do
        let (major, k) ← k.takeVersionPart?
        if !k.isAt 0 '.' then none
        else
          let (minor, k) ← (k.skip 1).takeVersionPart?
          some (Directive.version major minor, k)
      else if name = "TAG".toList then do
        let (handle, k) ← k.takeHandle?
        if handle.getLast? ≠ some '!' || !(k.at? 0).any isBlank then none
        else
          let (uri, k) ← k.skipBlanks.takeUri?
          if k.isSpaceAt 0 then some (.handle (.ofList handle) (.ofList uri), k) else none
      else none
    let k := k.skipBlanks.skipComment
    if k.atLineEnd then return (directive, k.takeBreak.2) else none

end Filing.Yaml
