import Filing.Pattern.Class

/-!
# Patterns

A pattern describes texts; `Pattern.isMatch` says whether a part of a text matches. The search keeps the
set of all ways in which the pattern may go on, each a list of patterns that have to match one after the
other, and takes one character at a time. Each way is kept once, so the time for a text is bounded by
its length and the size of the pattern.
-/

namespace Filing

inductive Anchor where
  | textStart
  | textEnd
  | lineStart
  | lineEnd
  /-- The same for lines that a carriage return may end too. -/
  | anyLineStart
  | anyLineEnd
  | wordEdge
  | noWordEdge
  | wordStart
  | wordEnd
  | wordStartHalf
  | wordEndHalf
deriving DecidableEq, Repr

inductive Pattern where
  | empty
  | char (charClass : CharClass)
  | anchor (anchor : Anchor) (ascii : Bool)
  | sequence (first second : Pattern)
  | choice (first second : Pattern)
  | repeated (pattern : Pattern) (least : Nat) (most : Option Nat)
deriving DecidableEq, Repr

structure Place where
  before : Option Char
  after : Option Char

namespace Place

def isWord (ascii : Bool) : Option Char → Bool
  | none => false
  | some c => if ascii then c.isAlphanum || c = '_' else isWordChar c

def fulfils (p : Place) (ascii : Bool) : Anchor → Bool
  | .textStart => p.before.isNone
  | .textEnd => p.after.isNone
  | .lineStart => p.before.isNone || p.before = some '\n'
  | .lineEnd => p.after.isNone || p.after = some '\n'
  | .anyLineStart =>
    p.before.isNone || p.before = some '\n' || (p.before = some '\r' && p.after ≠ some '\n')
  | .anyLineEnd =>
    p.after.isNone || p.after = some '\r' || (p.after = some '\n' && p.before ≠ some '\r')
  | .wordEdge => isWord ascii p.before != isWord ascii p.after
  | .noWordEdge => isWord ascii p.before == isWord ascii p.after
  | .wordStart => !isWord ascii p.before && isWord ascii p.after
  | .wordEnd => isWord ascii p.before && !isWord ascii p.after
  | .wordStartHalf => !isWord ascii p.before
  | .wordEndHalf => !isWord ascii p.after

end Place

namespace Pattern

def ofSequence : List Pattern → Pattern
  | [] => .empty
  | [p] => p
  | p :: rest => .sequence p (ofSequence rest)

def ofChoice : List Pattern → Pattern
  | [] => .empty
  | [p] => p
  | p :: rest => .choice p (ofChoice rest)

def skippable (at' : Place) : Pattern → Bool
  | .empty => true
  | .char _ => false
  | .anchor a ascii => at'.fulfils ascii a
  | .sequence p q => p.skippable at' && q.skippable at'
  | .choice p q => p.skippable at' || q.skippable at'
  | .repeated p least most => least == 0 || most == some 0 || p.skippable at'

/-- The ways to go on after a pattern has taken the character after a place. A repetition whose pattern
may be skipped at this place may have taken all of its least count there. -/
def advance (at' : Place) (c : Char) : Pattern → List (List Pattern)
  | .empty => []
  | .char s => if s.has c.toNat then [[]] else []
  | .anchor .. => []
  | .sequence p q =>
    (p.advance at' c).map (· ++ [q]) ++ if p.skippable at' then q.advance at' c else []
  | .choice p q => p.advance at' c ++ q.advance at' c
  | .repeated p least most =>
    if most = some 0 then []
    else
      let least := if p.skippable at' then 0 else least - 1
      (p.advance at' c).map (· ++ [.repeated p least (most.map (· - 1))])

def advanceAll (at' : Place) (c : Char) : List Pattern → List (List Pattern)
  | [] => []
  | p :: ps =>
    (p.advance at' c).map (· ++ ps) ++ if p.skippable at' then advanceAll at' c ps else []

def addWays (ways : List (List Pattern)) (more : List (List Pattern)) : List (List Pattern) :=
  more.foldl (fun ways way => if way ∈ ways then ways else way :: ways) ways

def search (start : Pattern) (ways : List (List Pattern)) (before : Option Char) :
    List Char → Bool
  | [] =>
    (addWays ways [[start]]).any fun way => way.all (skippable ⟨before, none⟩)
  | c :: rest =>
    let at' : Place := ⟨before, some c⟩
    let ways := addWays ways [[start]]
    if ways.any fun way => way.all (skippable at') then true
    else search start (ways.foldl (fun next way => addWays next (advanceAll at' c way)) [])
      (some c) rest

def isMatch (pattern : Pattern) (text : List Char) : Bool := search pattern [] none text

/-- A measure of the machine that a pattern stands for, in bytes. -/
def weight : Pattern → Nat
  | .empty => 32
  | .char (.range _ _) => 32
  | .char (.property p) => 32 + 24 * p.ranges.length
  | .char _ => 64
  | .anchor .. => 32
  | .sequence p q => p.weight + q.weight
  | .choice p q => p.weight + q.weight + 40
  | .repeated p least most =>
    match most with
    | none => p.weight * max 1 least + 80
    | some n => p.weight * n + 40 * (n - least)

def greatestWeight : Nat := 10 * Nat.pow 2 20

end Pattern

end Filing
