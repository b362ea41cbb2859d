import Filing.Text.CaseRuns
import Filing.Text.Cased

/-!
# Lower case

The lower case of a text maps every character to its lower form, which for the dotted capital I is two
characters. The capital sigma becomes the final sigma where a letter with case comes before it and none
after it, marks and punctuation inside of words passed over on both sides.
-/

namespace Filing.Text

def lowerChar (c : Char) : List Char :=
  if c.toNat < 0x80 then [c.toLower]
  else if c = 'İ' then ['i', '\u0307']
  else [.ofNat (mapCase lowerRuns c.toNat)]

/-- Whether the first character that is not passed over has case. -/
def facesCased (cs : List Char) : Bool :=
  match cs.dropWhile caseIgnorable.contains with
  | c :: _ => cased.contains c
  | [] => false

/-- The lower form of a text that comes after the characters `before`, the nearest first. -/
def lowerAfter (before : List Char) : List Char → List Char
  | [] => []
  | c :: rest =>
    (if c = 'Σ' then [if facesCased before && !facesCased rest then 'ς' else 'σ']
      else lowerChar c) ++ lowerAfter (c :: before) rest

def lower (cs : List Char) : List Char := lowerAfter [] cs

end Filing.Text
