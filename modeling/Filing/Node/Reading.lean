import Filing.Node.Scalar

/-!
# Readers of untyped trees

A reader takes a tree to a value of the domain, or refuses it. A record is read from a mapping, whose
unknown members are ignored and whose known members may not repeat, or from a positional sequence of
its fields, of which the last ones may be missing. `Node.settle` gives every scalar the type it has for
a reader without expectation; a settled tree offers its texts only to readers of texts.
-/

namespace Filing.Node

def int? : Node → Option Int
  | .int n => some n
  | .scalar x => x.int?
  | _ => none

def id? (node : Node) : Option Int := node.int?.filter (isSigned 64)

def rank? (node : Node) : Option Int := node.int?.filter (isSigned 32)

def bool? : Node → Option Bool
  | .bool b => some b
  | .scalar x => x.bool?
  | _ => none

def text? : Node → Option String
  | .text s => some s
  | .scalar x => some x.text
  | _ => none

def double? : Node → Option Double
  | .int n => some (.ofInt n)
  | .double x => some x
  | _ => none

def optional? {α : Type} (read : Node → Option α) (node : Node) : Option (Option α) :=
  match node with
  | .null => some none
  | .scalar x => do if ← x.isAbsent? then return none else (← read node)
  | node => do return some (← read node)

/-- The items of a sequence; an empty scalar is a sequence without items. -/
def items? : Node → Option (List Node)
  | .sequence _ _ xs => some xs
  | .scalar x => if x.isBlank then some [] else none
  | _ => none

def list? {α : Type} (read : Node → Option α) (node : Node) : Option (List α) := do
  (← node.items?).mapM read

def members? : Node → Option (List (String × Node))
  | .mapping _ ms => ms.mapM fun (k, x) => k.text?.map (·, x)
  | .scalar x => if x.isBlank then some [] else none
  | _ => none

/-- The place of a member among the fields of a record: the field it names, or the field whose number
it gives. `none` when the key can be neither, and `some none` when no field answers to it. -/
def fieldPlace? (names : List String) : Node → Option (Option Nat)
  | .text s => some (names.idxOf? s)
  | .scalar x => some (names.idxOf? x.text)
  | .int n => if 0 ≤ n then some (if n.toNat < names.length then some n.toNat else none) else none
  | _ => none

/-- Fills the places of a record from the members of a mapping; a place filled twice is refused. -/
def placeMembers (names : List String) (slots : List (Option Node)) :
    List (Node × Node) → Option (List (Option Node))
  | [] => some slots
  | (k, x) :: ms =>
    match fieldPlace? names k with
    | none => none
    | some none => placeMembers names slots ms
    | some (some i) =>
      match slots[i]? with
      | some none => placeMembers names (slots.set i (some x)) ms
      | _ => none

/-- The parts of a record in the order of its fields; a part that is missing is `none`. -/
def fields? (names : List String) : Node → Option (List (Option Node))
  | .mapping _ ms => placeMembers names (names.map fun _ => none) ms
  | .sequence _ true xs =>
    if xs.length ≤ names.length then
      some (xs.map some ++ List.replicate (names.length - xs.length) none)
    else none
  | .scalar x => if x.isBlank then some (names.map fun _ => none) else none
  | _ => none

def required {α : Type} (read : Node → Option α) (part : Option Node) : Option α := part.bind read

def withDefault {α : Type} (read : Node → Option α) (default : α) : Option Node → Option α
  | none => some default
  | some node => read node

mutual

/-- The tree with every scalar given its type; refused when a part of it is unreadable. -/
def settle : Node → Option Node
  | .scalar x =>
    match x.resolve with
    | .unreadable => none
    | node => some node
  | .sequence false _ xs => (settleItems xs).map (.sequence false true)
  | .mapping false ms => (settleMembers ms).map (.mapping false)
  | .sequence true _ _ | .mapping true _ | .unreadable => none
  | .null => some .null
  | .bool b => some (.bool b)
  | .int n => some (.int n)
  | .double x => some (.double x)
  | .text s => some (.text s)

def settleItems : List Node → Option (List Node)
  | [] => some []
  | x :: xs => do return (← settle x) :: (← settleItems xs)

def settleMembers : List (Node × Node) → Option (List (Node × Node))
  | [] => some []
  | (k, x) :: ms => do return (← settle k, ← settle x) :: (← settleMembers ms)

end

mutual

/-- The JSON value of a tree. A double that is not finite becomes null, and a key any scalar's text. -/
def json? : Node → Option Json
  | .scalar x =>
    match x.resolve with
    | .null => some .null
    | .bool b => some (.bool b)
    | .int n => some (.int n)
    | .double y => some (if y.isFinite then .double y else .null)
    | .text s => some (.string s)
    | _ => none
  | .sequence false _ xs => (jsonItems? xs).map .array
  | .mapping false ms => (jsonMembers? ms).map .ofMembers
  | .sequence true _ _ | .mapping true _ | .unreadable => none
  | .null => some .null
  | .bool b => some (.bool b)
  | .int n => some (.int n)
  | .double x => some (if x.isFinite then .double x else .null)
  | .text s => some (.string s)

def jsonItems? : List Node → Option (List Json)
  | [] => some []
  | x :: xs => do return (← json? x) :: (← jsonItems? xs)

def jsonMembers? : List (Node × Node) → Option (List (String × Json))
  | [] => some []
  | (k, x) :: ms => do return (← k.text?, ← json? x) :: (← jsonMembers? ms)

end

end Filing.Node
