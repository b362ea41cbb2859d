import Filing.Double

/-!
# Conditions

A condition is a leaf, a combination of conditions, or a reference to a shared condition by its
identifier. A leaf puts one test to the values of one field.
-/

namespace Filing

inductive TextMode where
  | equals
  | contains
  | startsWith
  | endsWith
deriving DecidableEq, Repr

inductive DateOperator where
  | before
  | after
  | on
deriving DecidableEq, Repr

inductive NumberOperator where
  | less
  | lessOrEqual
  | equal
  | greaterOrEqual
  | greater
deriving DecidableEq, Repr

/-- What a leaf asks of the values of its field. -/
inductive Test where
  | text (value : String) (mode : TextMode) (caseSensitive : Bool)
  | regex (pattern : String)
  | date (operator : DateOperator) (value : String)
  | number (operator : NumberOperator) (value : Double)
  | present
  | lexicon (id : Int) (wholeValue : Bool)
  | expression (text : String)
deriving DecidableEq

structure Leaf where
  field : String
  test : Test
deriving DecidableEq

inductive Condition where
  | leaf (leaf : Leaf)
  | and (conditions : List Condition)
  | or (conditions : List Condition)
  | not (condition : Condition)
  | reference (id : Int)

instance : Inhabited Condition := ⟨.and []⟩

namespace Condition

mutual

def decEq : (a b : Condition) → Decidable (a = b)
  | .leaf a, .leaf b => if h : a = b then .isTrue (h ▸ rfl) else .isFalse fun e => h (leaf.inj e)
  | .and as, .and bs =>
    match decEqAll as bs with
    | .isTrue h => .isTrue (h ▸ rfl)
    | .isFalse h => .isFalse fun e => h (and.inj e)
  | .or as, .or bs =>
    match decEqAll as bs with
    | .isTrue h => .isTrue (h ▸ rfl)
    | .isFalse h => .isFalse fun e => h (or.inj e)
  | .not a, .not b =>
    match decEq a b with
    | .isTrue h => .isTrue (h ▸ rfl)
    | .isFalse h => .isFalse fun e => h (not.inj e)
  | .reference a, .reference b =>
    if h : a = b then .isTrue (h ▸ rfl) else .isFalse fun e => h (reference.inj e)
  | .leaf _, .and _ | .leaf _, .or _ | .leaf _, .not _ | .leaf _, .reference _ | .and _, .leaf _
  | .and _, .or _ | .and _, .not _ | .and _, .reference _ | .or _, .leaf _ | .or _, .and _
  | .or _, .not _ | .or _, .reference _ | .not _, .leaf _ | .not _, .and _ | .not _, .or _
  | .not _, .reference _ | .reference _, .leaf _ | .reference _, .and _ | .reference _, .or _
  | .reference _, .not _ => .isFalse (by simp)

def decEqAll : (as bs : List Condition) → Decidable (as = bs)
  | [], [] => .isTrue rfl
  | [], _ :: _ | _ :: _, [] => .isFalse (by simp)
  | a :: as, b :: bs =>
    match decEq a b, decEqAll as bs with
    | .isTrue h, .isTrue h' => .isTrue (by rw [h, h'])
    | .isFalse h, _ => .isFalse (by simp [h])
    | _, .isFalse h => .isFalse (by simp [h])

end

instance : DecidableEq Condition := decEq

end Condition

def Test.kind : Test → String
  | .text .. => "text"
  | .regex _ => "regex"
  | .date .. => "date"
  | .number .. => "number"
  | .present => "exists"
  | .lexicon .. => "lexicon"
  | .expression _ => "expression"

namespace Condition

def kind : Condition → String
  | .leaf l => l.test.kind
  | .and _ => "and"
  | .or _ => "or"
  | .not _ => "not"
  | .reference _ => "reference"

def isLeaf : Condition → Bool
  | .leaf _ => true
  | _ => false

def field? : Condition → Option String
  | .leaf l => some l.field
  | _ => none

mutual

def walk : Condition → List Condition
  | .leaf l => [.leaf l]
  | .and cs => .and cs :: walkAll cs
  | .or cs => .or cs :: walkAll cs
  | .not c => .not c :: walk c
  | .reference id => [.reference id]

def walkAll : List Condition → List Condition
  | [] => []
  | c :: cs => walk c ++ walkAll cs

end

def referenceId? : Condition → Option Int
  | .reference id => some id
  | _ => none

def lexiconId? : Condition → Option Int
  | .leaf ⟨_, .lexicon id _⟩ => some id
  | _ => none

def referencedConditions (c : Condition) : List Int := c.walk.filterMap referenceId?

def referencedLexicons (c : Condition) : List Int := c.walk.filterMap lexiconId?

end Condition

end Filing
