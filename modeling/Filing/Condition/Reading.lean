import Filing.Condition
import Filing.Node.Reading

/-!
# Reading conditions

A condition is a mapping whose member `type` names its kind, or a sequence that starts with that name
and goes on with the fields of the kind. The tree is settled first: a text has to be written as one. Inside
of another condition the kind, and the name of a member, may also be given by its number.
-/

namespace Filing.Condition

def kinds : List (String × List String) :=
  [("text", ["field", "value", "mode", "case_sensitive"]),
    ("regex", ["field", "pattern"]),
    ("date", ["field", "operator", "value"]),
    ("number", ["field", "operator", "value"]),
    ("exists", ["field"]),
    ("lexicon", ["field", "lexicon_id", "whole_value"]),
    ("expression", ["field", "expression"]),
    ("and", ["conditions"]),
    ("or", ["conditions"]),
    ("not", ["condition"]),
    ("reference", ["condition_id"])]

def position? (names : List String) (byNumber : Bool) : Node → Option Nat
  | .text s => names.idxOf? s
  | .int n => if byNumber && 0 ≤ n && n < names.length then some n.toNat else none
  | _ => none

def isNothing : Node → Bool
  | .null => true
  | .mapping _ [] => true
  | _ => false

/-- One of several named values: its name, or a mapping from its name to nothing. -/
def choice? {α : Type} (choices : List (String × α)) (node : Node) : Option α := do
  let names := choices.map Prod.fst
  let i ← match node with
    | .text s => position? names false (.text s)
    | .mapping _ [(k, x)] => if isNothing x then position? names true k else none
    | _ => none
  return (← choices[i]?).2

def modes : List (String × TextMode) :=
  [("equals", .equals), ("contains", .contains), ("starts_with", .startsWith),
    ("ends_with", .endsWith)]

def dateOperators : List (String × DateOperator) :=
  [("before", .before), ("after", .after), ("on", .on)]

def numberOperators : List (String × NumberOperator) :=
  [("lt", .less), ("le", .lessOrEqual), ("eq", .equal), ("ge", .greaterOrEqual), ("gt", .greater)]

/-- The members without the one that names the kind, and the number of that kind. A second such member
is refused. -/
def splitKind (byNumber : Bool) : List (Node × Node) → Option (Option Nat × List (Node × Node))
  | [] => some (none, [])
  | (k, x) :: ms => do
    let (found, rest) ← splitKind byNumber ms
    match k with
    | .text "type" =>
      if found.isSome then none
      else return (some (← position? (kinds.map Prod.fst) byNumber x), rest)
    | k => return (found, (k, x) :: rest)

/-- The kind of a settled tree and its parts in the order of the fields of the kind. -/
def parts? (byNumber : Bool) : Node → Option (String × List (Option Node))
  | .mapping tagged ms => do
    let (found, rest) ← splitKind byNumber ms
    let (kind, names) ← kinds[← found]?
    return (kind, ← (Node.mapping tagged rest).fields? names)
  | .sequence tagged positional (x :: xs) => do
    let (kind, names) ← kinds[← position? (kinds.map Prod.fst) byNumber x]?
    return (kind, ← (Node.sequence tagged positional xs).fields? names)
  | _ => none

def readLeaf? (kind : String) (parts : List (Option Node)) : Option Leaf :=
  match kind, parts with
  | "text", [field, value, mode, caseSensitive] => do
    return ⟨← Node.required Node.text? field, .text (← Node.required Node.text? value)
      (← Node.withDefault (choice? modes) .equals mode)
      (← Node.withDefault Node.bool? false caseSensitive)⟩
  | "regex", [field, pattern] => do
    return ⟨← Node.required Node.text? field, .regex (← Node.required Node.text? pattern)⟩
  | "date", [field, operator, value] => do
    return ⟨← Node.required Node.text? field,
      .date (← Node.required (choice? dateOperators) operator)
        (← Node.required Node.text? value)⟩
  | "number", [field, operator, value] => do
    return ⟨← Node.required Node.text? field,
      .number (← Node.required (choice? numberOperators) operator)
        (← Node.required Node.double? value)⟩
  | "exists", [field] => do return ⟨← Node.required Node.text? field, .present⟩
  | "lexicon", [field, lexiconId, wholeValue] => do
    return ⟨← Node.required Node.text? field, .lexicon (← Node.required Node.id? lexiconId)
      (← Node.withDefault Node.bool? false wholeValue)⟩
  | "expression", [field, expression] => do
    return ⟨← Node.required Node.text? field,
      .expression (← Node.required Node.text? expression)⟩
  | _, _ => none

/-- Reads a settled tree with at most `fuel` levels of conditions. -/
def readSettled? (fuel : Nat) (byNumber : Bool) (node : Node) : Option Condition :=
  match fuel with
  | 0 => none
  | fuel + 1 => do
    let (kind, parts) ← parts? byNumber node
    match kind, parts with
    | "and", [some (.sequence _ _ xs)] => return .and (← xs.mapM (readSettled? fuel true))
    | "or", [some (.sequence _ _ xs)] => return .or (← xs.mapM (readSettled? fuel true))
    | "not", [some x] => return .not (← readSettled? fuel true x)
    | "reference", [id] => return .reference (← Node.required Node.id? id)
    | kind, parts => return .leaf (← readLeaf? kind parts)

end Filing.Condition

namespace Filing

mutual

def Node.depth : Node → Nat
  | .sequence _ _ xs => depthItems xs + 1
  | .mapping _ ms => depthMembers ms + 1
  | _ => 1

def Node.depthItems : List Node → Nat
  | [] => 0
  | x :: xs => max (Node.depth x) (Node.depthItems xs)

def Node.depthMembers : List (Node × Node) → Nat
  | [] => 0
  | (_, x) :: ms => max (Node.depth x) (Node.depthMembers ms)

end

def Condition.read? (node : Node) : Option Condition := do
  let settled ← node.settle
  Condition.readSettled? settled.depth false settled

end Filing
