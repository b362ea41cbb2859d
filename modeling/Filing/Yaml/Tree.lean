import Filing.Yaml.Token

/-!
# Document trees

The tree that the tokens of a text with one document make up. Anchors get numbers in the order of their
places; a later anchor of the same name is another one. An alias is a leaf with the number of its
anchor, which `Tree.target?` finds in the whole tree.
-/

namespace Filing.Yaml

inductive Tree where
  | alias (anchor : Nat)
  | scalar (anchor : Option Nat) (scalar : Scalar)
  | sequence (anchor : Option Nat) (tag : Option String) (items : List Tree)
  | mapping (anchor : Option Nat) (tag : Option String) (members : List (Tree × Tree))

instance : Inhabited Tree := ⟨.alias 0⟩

namespace Tree

mutual

def anchored : Tree → List (Nat × Tree)
  | .alias _ => []
  | .scalar anchor x => (anchor.map (·, Tree.scalar anchor x)).toList
  | .sequence anchor tag xs =>
    (anchor.map (·, Tree.sequence anchor tag xs)).toList ++ anchoredItems xs
  | .mapping anchor tag ms =>
    (anchor.map (·, Tree.mapping anchor tag ms)).toList ++ anchoredMembers ms

def anchoredItems : List Tree → List (Nat × Tree)
  | [] => []
  | x :: xs => anchored x ++ anchoredItems xs

def anchoredMembers : List (Tree × Tree) → List (Nat × Tree)
  | [] => []
  | (k, x) :: ms => anchored k ++ anchored x ++ anchoredMembers ms

end

mutual

def size : Tree → Nat
  | .alias _ | .scalar .. => 1
  | .sequence _ _ xs => sizeItems xs + 2
  | .mapping _ _ ms => sizeMembers ms + 2

def sizeItems : List Tree → Nat
  | [] => 0
  | x :: xs => size x + sizeItems xs

def sizeMembers : List (Tree × Tree) → Nat
  | [] => 0
  | (k, x) :: ms => size k + size x + sizeMembers ms

end

end Tree

/-- The tokens that are still to be read, the URIs of tag handles, and the numbers of anchor names. -/
structure Parse where
  tokens : List Token
  handles : List (String × String)
  anchors : List (String × Nat)

namespace Parse

def next (s : Parse) : Token := s.tokens.headD .textEnd

def skip (s : Parse) : Parse := { s with tokens := s.tokens.tail }

/-- Gives a number to an anchor: the number of different names before it. -/
def name (s : Parse) (anchor : String) : Nat × Parse :=
  let number := s.anchors.length
  (number, { s with anchors := (anchor, number) :: s.anchors.filter (·.1 ≠ anchor) })

def handle? (s : Parse) (handle : String) : Option String :=
  s.handles.lookup handle
    <|> if handle = "!" then some "!" else if handle = "!!" then some "tag:yaml.org,2002:" else none

def uri? (s : Parse) (handle rest : String) : Option String :=
  if handle.isEmpty then some rest else (s.handle? handle).map (· ++ rest)

def properties (s : Parse) : Option (Option String × Option String × Parse) :=
  match s.next with
  | .anchor anchor =>
    match s.skip.next with
    | .tag handle rest => do return (some anchor, ← s.uri? handle rest, s.skip.skip)
    | _ => some (some anchor, none, s.skip)
  | .tag handle rest =>
    match s.skip.next with
    | .anchor anchor => do return (some anchor, ← s.uri? handle rest, s.skip.skip)
    | _ => do return (none, ← s.uri? handle rest, s.skip)
  | _ => some (none, none, s)

def emptyNode : Tree := .scalar none ⟨none, .plain, ""⟩

def isEntry : Token → Bool
  | .entry => true
  | _ => false

def endsEntry (indentless : Bool) : Token → Bool
  | .entry | .blockEnd => true
  | .key | .value => indentless
  | _ => false

def endsBlockPart : Token → Bool
  | .key | .value | .blockEnd => true
  | _ => false

def endsFlowPart (close : Token → Bool) : Token → Bool
  | .comma => true
  | token => close token

def endsFlowKey (close : Token → Bool) : Token → Bool
  | .value => true
  | token => endsFlowPart close token

def isSequenceEnd : Token → Bool
  | .flowSequenceEnd => true
  | _ => false

def isMappingEnd : Token → Bool
  | .flowMappingEnd => true
  | _ => false

mutual

/-- A node. Collections written by indentation are read where `block` holds; `indentless` allows a
sequence that is indented no further than the key before it. -/
def node (block indentless : Bool) : Nat → Parse → Option (Tree × Parse)
  | 0, _ => none
  | fuel + 1, s =>
    match s.next with
    | .alias name => (s.anchors.lookup name).map fun number => (.alias number, s.skip)
    | _ => do
      let (anchor, tag, s) ← s.properties
      let (number, s) := match anchor with
        | some anchor => let (number, s) := s.name anchor; (some number, s)
        | none => (none, s)
      match s.next, block with
      | .scalar style text, _ =>
        return (.scalar number ⟨tag.filter (· ≠ "!"), style, text⟩, s.skip)
      | .flowSequence, _ =>
        let (items, s) ← flowItems true fuel s.skip
        return (.sequence number tag items, s)
      | .flowMapping, _ =>
        let (members, s) ← flowMembers true fuel s.skip
        return (.mapping number tag members, s)
      | .blockSequence, true =>
        let (items, s) ← entries false fuel s.skip
        return (.sequence number tag items, s)
      | .blockMapping, true =>
        let (members, s) ← blockMembers fuel s.skip
        return (.mapping number tag members, s)
      | token, _ =>
        if indentless && isEntry token then
          let (items, s) ← entries true fuel s
          return (.sequence number tag items, s)
        else if anchor.isSome || tag.isSome then
          return (.scalar number ⟨tag, .plain, ""⟩, s)
        else none

def entries (indentless : Bool) : Nat → Parse → Option (List Tree × Parse)
  | 0, _ => none
  | fuel + 1, s =>
    match s.next with
    | .entry => do
      let s := s.skip
      let (item, s) ←
        if endsEntry indentless s.next then some (emptyNode, s) else node true false fuel s
      let (items, s) ← entries indentless fuel s
      return (item :: items, s)
    | .blockEnd => some ([], if indentless then s else s.skip)
    | _ => if indentless then some ([], s) else none

def blockMembers : Nat → Parse → Option (List (Tree × Tree) × Parse)
  | 0, _ => none
  | fuel + 1, s =>
    match s.next with
    | .blockEnd => some ([], s.skip)
    | .key => do
      let s := s.skip
      let (key, s) ← if endsBlockPart s.next then some (emptyNode, s) else node true true fuel s
      let (value, s) ← blockValue fuel s
      let (members, s) ← blockMembers fuel s
      return ((key, value) :: members, s)
    | _ => none

def blockValue : Nat → Parse → Option (Tree × Parse)
  | 0, _ => none
  | fuel + 1, s =>
    match s.next with
    | .value =>
      if endsBlockPart s.skip.next then some (emptyNode, s.skip) else node true true fuel s.skip
    | _ => some (emptyNode, s)

def flowItems (first : Bool) : Nat → Parse → Option (List Tree × Parse)
  | 0, _ => none
  | fuel + 1, s =>
    match s.next with
    | .flowSequenceEnd => some ([], s.skip)
    | token => do
      let s ← match first, token with
        | true, _ => some s
        | false, .comma => some s.skip
        | false, _ => none
      match s.next with
      | .flowSequenceEnd => return ([], s.skip)
      | .key =>
        let (member, s) ← flowPair fuel s.skip
        let (items, s) ← flowItems false fuel s
        return (.mapping none none [member] :: items, s)
      | _ =>
        let (item, s) ← node false false fuel s
        let (items, s) ← flowItems false fuel s
        return (item :: items, s)

/-- A single member among the items in brackets. What stands in place of a missing key is passed. -/
def flowPair : Nat → Parse → Option ((Tree × Tree) × Parse)
  | 0, _ => none
  | fuel + 1, s => do
    let (key, s) ←
      if endsFlowKey isSequenceEnd s.next then some (emptyNode, s.skip) else node false false fuel s
    let (value, s) ← flowValue isSequenceEnd fuel s
    return ((key, value), s)

def flowValue (close : Token → Bool) : Nat → Parse → Option (Tree × Parse)
  | 0, _ => none
  | fuel + 1, s =>
    match s.next with
    | .value =>
      if endsFlowPart close s.skip.next then some (emptyNode, s.skip)
      else node false false fuel s.skip
    | _ => some (emptyNode, s)

def flowMembers (first : Bool) : Nat → Parse → Option (List (Tree × Tree) × Parse)
  | 0, _ => none
  | fuel + 1, s =>
    match s.next with
    | .flowMappingEnd => some ([], s.skip)
    | token => do
      let s ← match first, token with
        | true, _ => some s
        | false, .comma => some s.skip
        | false, _ => none
      match s.next with
      | .flowMappingEnd => return ([], s.skip)
      | .key =>
        let s := s.skip
        let (key, s) ←
          if endsFlowKey isMappingEnd s.next then some (emptyNode, s) else node false false fuel s
        let (value, s) ← flowValue isMappingEnd fuel s
        let (members, s) ← flowMembers false fuel s
        return ((key, value) :: members, s)
      | _ =>
        let (key, s) ← node false false fuel s
        let (members, s) ← flowMembers false fuel s
        return ((key, emptyNode) :: members, s)

end

/-- Takes the directives before a document; each version and each handle may be given once. -/
def directives (versioned : Bool) : List Token → List (String × String) →
    Option (List Token × List (String × String))
  | .directive (.version major minor) :: tokens, handles =>
    if versioned || major ≠ 1 || (minor ≠ 1 && minor ≠ 2) then none
    else directives true tokens handles
  | .directive (.handle name uri) :: tokens, handles =>
    if handles.any (·.1 = name) then none else directives versioned tokens ((name, uri) :: handles)
  | tokens, handles => some (tokens, handles)

def isDone : List Token → Bool
  | .documentEnd :: tokens => isDone tokens
  | [.textEnd] => true
  | _ => false

def endsDocument : Token → Bool
  | .directive _ | .documentStart | .documentEnd | .textEnd => true
  | _ => false

end Parse

def Tree.ofTokens? (tokens : List Token) : Option Tree :=
  match tokens with
  | [.textEnd] => some Parse.emptyNode
  | _ => do
    let (rest, handles) ← Parse.directives false tokens []
    let marked := match rest with
      | .documentStart :: _ => true
      | _ => false
    let undirected := match tokens with
      | .directive _ :: _ => false
      | _ => true
    let s : Parse := ⟨if marked then rest.tail else rest, handles, []⟩
    if !marked && !undirected then none
    else
      let (tree, s) ←
        if marked && Parse.endsDocument s.next then some (Parse.emptyNode, s)
        else Parse.node true false (4 * tokens.length + 4) s
      if Parse.isDone s.tokens then return tree else none

end Filing.Yaml
