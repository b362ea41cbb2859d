import Filing.Snapshot

/-!
# Evaluating conditions

A condition is evaluated for one document, given what each leaf says of it. Conjunctions and
disjunctions stop at the first part that decides, and at the first part that fails. A chain of
references may follow at most `limit` of them, which also ends every cycle; all other nesting is free.

`Condition.asked` lists the leaves that an evaluation asks, in order: those after the part that decides
are not asked.
-/

namespace Filing

/-- Whether a condition holds, or why that cannot be said. -/
abbrev Verdict := Except Error Bool

namespace Verdict

def fault (f : ConditionFault) : Verdict := .error (.conditionEvaluation f)

def negate : Verdict → Verdict
  | .ok b => .ok (!b)
  | .error e => .error e

def andThen (v : Verdict) (next : Verdict) : Verdict :=
  match v with
  | .ok true => next
  | v => v

def orElse (v : Verdict) (next : Verdict) : Verdict :=
  match v with
  | .ok false => next
  | v => v

end Verdict

namespace Condition

mutual

def evaluateWith (leaf : Leaf → Verdict) (refer : Int → Verdict) : Condition → Verdict
  | .leaf l => leaf l
  | .and cs => evaluateAll leaf refer cs
  | .or cs => evaluateAny leaf refer cs
  | .not c => (evaluateWith leaf refer c).negate
  | .reference id => refer id

def evaluateAll (leaf : Leaf → Verdict) (refer : Int → Verdict) : List Condition → Verdict
  | [] => .ok true
  | c :: cs => (evaluateWith leaf refer c).andThen (evaluateAll leaf refer cs)

def evaluateAny (leaf : Leaf → Verdict) (refer : Int → Verdict) : List Condition → Verdict
  | [] => .ok false
  | c :: cs => (evaluateWith leaf refer c).orElse (evaluateAny leaf refer cs)

end

/-- Evaluates a condition that may follow `left` more references out of `limit`. -/
def evaluateAt (leaf : Leaf → Verdict) (s : Snapshot) (limit : Nat) : Nat → Condition → Verdict
  | 0, c => c.evaluateWith leaf fun id => .fault (.tooDeep id limit)
  | left + 1, c => c.evaluateWith leaf fun id =>
    match s.condition? id with
    | some target => evaluateAt leaf s limit left target
    | none => .fault (.conditionNotFound id)

def evaluate (leaf : Leaf → Verdict) (s : Snapshot) (limit : Nat) (c : Condition) : Verdict :=
  c.evaluateAt leaf s limit limit

mutual

def askedWith (leaf : Leaf → Verdict) (refer : Int → Verdict) (referAsked : Int → List Leaf) :
    Condition → List Leaf
  | .leaf l => [l]
  | .and cs => askedAll leaf refer referAsked cs
  | .or cs => askedAny leaf refer referAsked cs
  | .not c => askedWith leaf refer referAsked c
  | .reference id => referAsked id

def askedAll (leaf : Leaf → Verdict) (refer : Int → Verdict) (referAsked : Int → List Leaf) :
    List Condition → List Leaf
  | [] => []
  | c :: cs =>
    askedWith leaf refer referAsked c ++
      if evaluateWith leaf refer c matches .ok true then askedAll leaf refer referAsked cs else []

def askedAny (leaf : Leaf → Verdict) (refer : Int → Verdict) (referAsked : Int → List Leaf) :
    List Condition → List Leaf
  | [] => []
  | c :: cs =>
    askedWith leaf refer referAsked c ++
      if evaluateWith leaf refer c matches .ok false then askedAny leaf refer referAsked cs else []

end

def askedAt (leaf : Leaf → Verdict) (s : Snapshot) (limit : Nat) : Nat → Condition → List Leaf
  | 0, c => c.askedWith leaf (fun id => .fault (.tooDeep id limit)) fun _ => []
  | left + 1, c =>
    c.askedWith leaf
      (fun id => match s.condition? id with
        | some target => evaluateAt leaf s limit left target
        | none => .fault (.conditionNotFound id))
      (fun id => match s.condition? id with
        | some target => askedAt leaf s limit left target
        | none => [])

def asked (leaf : Leaf → Verdict) (s : Snapshot) (limit : Nat) (c : Condition) : List Leaf :=
  c.askedAt leaf s limit limit

end Condition

namespace Error

/-- The failure of a condition, told of the collection that it belongs to. -/
def inCollection (id : Int) : Error → Error
  | .conditionEvaluation fault => .conditionEvaluation (.inCollection id fault)
  | e => e

end Error

namespace Collection

def evaluate (leaf : Leaf → Verdict) (s : Snapshot) (limit : Nat) (c : Collection) : Verdict :=
  match c.condition.evaluate leaf s limit with
  | .ok b => .ok b
  | .error e => .error (e.inCollection c.id)

def asked (leaf : Leaf → Verdict) (s : Snapshot) (limit : Nat) (c : Collection) : List Leaf :=
  c.condition.asked leaf s limit

end Collection

end Filing
