import Filing.Classification
import Filing.Condition.Memory
import Filing.Schema.Checking

/-!
# Documents in progress

Documents are classified at the same time and share what is remembered about leaves and schemas. An inquiry is a
classification that has come to a leaf or to details of a policy: it waits for the answer and says how to go on.
Inquiries lie on a desk together with the memory. A step of the desk answers the inquiry at one place, and any list of
places is a way to go through them.
-/

namespace Filing

/-- What is asked on the way: whether a leaf holds of a document, and what is wrong with details. -/
inductive Query where
  | leaf (s : Snapshot) (d : Document) (l : Leaf)
  | details (details schema : Json)

abbrev Query.Answer : Query → Type
  | .leaf .. => Verdict
  | .details .. => List String

inductive Inquiry (α : Type) where
  | done (result : α)
  | ask (q : Query) (next : q.Answer → Inquiry α)

namespace Inquiry

def bind {α β : Type} : Inquiry α → (α → Inquiry β) → Inquiry β
  | .done a, f => f a
  | .ask q next, f => .ask q fun answer => (next answer).bind f

instance : Monad Inquiry where
  pure := .done
  bind := bind

def leaf (s : Snapshot) (d : Document) (l : Leaf) : Inquiry Verdict := .ask (.leaf s d l) .done

def details (details schema : Json) : Inquiry (List String) := .ask (.details details schema) .done

def result? {α : Type} : Inquiry α → Option α
  | .done a => some a
  | .ask .. => none

end Inquiry

namespace Condition
variable (leaf : Leaf → Inquiry Verdict) (refer : Int → Inquiry Verdict)

mutual

def inquireWith : Condition → Inquiry Verdict
  | .leaf l => leaf l
  | .and cs => inquireAll cs
  | .or cs => inquireAny cs
  | .not c => do
    let v ← inquireWith c
    return v.negate
  | .reference id => refer id

def inquireAll : List Condition → Inquiry Verdict
  | [] => return .ok true
  | c :: cs => do
    match ← inquireWith c with
    | .ok true => inquireAll cs
    | v => return v

def inquireAny : List Condition → Inquiry Verdict
  | [] => return .ok false
  | c :: cs => do
    match ← inquireWith c with
    | .ok false => inquireAny cs
    | v => return v

end

def inquireAt (s : Snapshot) (limit : Nat) : Nat → Condition → Inquiry Verdict
  | 0, c => c.inquireWith leaf fun id => return .fault (.tooDeep id limit)
  | left + 1, c => c.inquireWith leaf fun id =>
    match s.condition? id with
    | some target => inquireAt s limit left target
    | none => return .fault (.conditionNotFound id)

end Condition

def Collection.inquire (s : Snapshot) (d : Document) (limit : Nat) (c : Collection) : Inquiry Verdict := do
  match ← c.condition.inquireAt (.leaf s d) s limit limit with
  | .ok b => return .ok b
  | .error e => return .error (e.inCollection c.id)

def Findings.inquire (judge : Collection → Inquiry Verdict) : List Collection → Inquiry Findings
  | [] => return []
  | c :: cs => do
    let v ← judge c
    let found ← inquire judge cs
    return (c.id, v) :: found

def Walk.inquire (tieBreak : TieBreak) (look : Entry → Inquiry Findings) (w : Walk) : List Entry → Inquiry Walk
  | [] => return w
  | e :: es => do
    let findings ← look e
    let w := w.record tieBreak e findings
    if e.stopOnMatch && !findings.matched.items.isEmpty then return w else w.inquire tieBreak look es

def Sequence.inquire (tieBreak : TieBreak) (limit : Nat) (s : Snapshot) (d : Document) (q : Sequence) :
    Inquiry Walk :=
  Walk.start.inquire tieBreak (fun e => Findings.inquire (Collection.inquire s d limit) (e.collections s)) q.entries

def Policy.inquire (p : Policy) (t : PolicyType) : Inquiry (Except Error Unit) :=
  match t.definition with
  | none => return .ok ()
  | some schema => do
    match ← Inquiry.details p.details schema with
    | [] => return .ok ()
    | errors => return .error (.schemaValidation p.id errors)

namespace Application

def inquireStep (h : Handler) (t : PolicyType) (sequence : Int) (a : Application) (p : Policy) :
    Inquiry Application :=
  if a.stopped then return a
  else do
    match ← p.inquire t with
    | .ok () => return a.attempt h t.handler sequence p
    | .error e => return a.report (.policy p.id) e

def inquireSteps (h : Handler) (t : PolicyType) (sequence : Int) (a : Application) :
    List Policy → Inquiry Application
  | [] => return a
  | p :: ps => do
    let a ← a.inquireStep h t sequence p
    a.inquireSteps h t sequence ps

def inquireGroup (registry : Registry) (s : Snapshot) (sequence : Int) (a : Application)
    (group : Int × List Policy) : Inquiry Application :=
  if a.stopped then return a
  else
    match s.policyType? group.1 with
    | none => return a.report (.policyType group.1) (.config (.policyTypeNotFound group.1))
    | some t =>
      match registry.handlerFor t with
      | .error e => return a.report (.policyType group.1) e
      | .ok h =>
        match h.resolve a.document group.2 with
        | .error e => return a.report (.policyType group.1) e
        | .ok policies => a.inquireSteps h t sequence (sortOn Policy.id policies)

def inquireGroups (registry : Registry) (s : Snapshot) (sequence : Int) (a : Application) :
    List (Int × List Policy) → Inquiry Application
  | [] => return a
  | group :: groups => do
    let a ← a.inquireGroup registry s sequence group
    a.inquireGroups registry s sequence groups

end Application

def Inquiry.ofDocument (registry : Registry) (settings : Settings) (s : Snapshot) (q : Sequence) (d : Document) :
    Inquiry (DocumentResult × List Attempt) := do
  let w ← q.inquire settings.tieBreak settings.referenceLimit s d
  let a ← (Application.start d).inquireGroups registry s q.id (s.policyGroups w.matched)
  return (.found d w a, a.attempts)

structure Memory where
  leaves : LeafMemory := {}
  schemas : SchemaCache := .empty

def Memory.answer (m : Memory) : (q : Query) → q.Answer × Memory
  | .leaf s d l =>
    let (verdict, leaves) := m.leaves.evaluate s d l
    (verdict, { m with leaves })
  | .details details schema =>
    let (errors, schemas) := SchemaCache.validate m.schemas details schema
    (errors, { m with schemas })

def Inquiry.run {α : Type} : Inquiry α → Memory → α × Memory
  | .done a, m => (a, m)
  | .ask q next, m =>
    let (answer, m) := m.answer q
    (next answer).run m

/-- Goes through inquiries one after the other. -/
def Inquiry.runAll {α : Type} : List (Inquiry α) → Memory → List α × Memory
  | [], m => ([], m)
  | x :: xs, m =>
    let (a, m) := x.run m
    let (results, m) := runAll xs m
    (a :: results, m)

structure Desk (α : Type) where
  memory : Memory
  inquiries : List (Inquiry α)

/-- A document to classify, with the snapshot and the sequence for it. -/
structure Assignment where
  snapshot : Snapshot
  sequence : Sequence
  document : Document

namespace Desk
variable {α : Type}

/-- Answers the inquiry at a place, if there is one that waits. -/
def step (desk : Desk α) (place : Nat) : Desk α :=
  match desk.inquiries[place]? with
  | some (.ask q next) =>
    let (answer, memory) := desk.memory.answer q
    ⟨memory, desk.inquiries.set place (next answer)⟩
  | _ => desk

def run (desk : Desk α) (places : List Nat) : Desk α := places.foldl step desk

def results (desk : Desk α) : List (Option α) := desk.inquiries.map Inquiry.result?

def start (registry : Registry) (settings : Settings) (assignments : List Assignment) :
    Desk (DocumentResult × List Attempt) :=
  ⟨{}, assignments.map fun a => .ofDocument registry settings a.snapshot a.sequence a.document⟩

end Desk

end Filing
