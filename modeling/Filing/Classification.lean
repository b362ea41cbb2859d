import Filing.Policy.Application
import Filing.Sequence.Walk

/-!
# Classifying documents

A document is classified by walking a sequence and applying the policies of the matched collections. A
batch is classified document by document against one snapshot. Once the caller has cancelled, the
documents that have not been started are given back as they are, with an error; likewise a document
that did not finish within its time.
-/

namespace Filing

/-- What is asked about the leaves of a condition. A leaf may never answer; with a time limit the
document is then given up. -/
structure LeafEvaluator where
  answer : Snapshot → Document → Leaf → Verdict
  silent : Snapshot → Document → Leaf → Bool := fun _ _ _ => false

structure Settings where
  tieBreak : TieBreak := .lowestId
  referenceLimit : Nat := 32
  timeLimited : Bool := false

structure Pipeline where
  leaf : LeafEvaluator
  registry : Registry
  validator : Validator
  settings : Settings

structure DocumentResult where
  reference : String
  matched : IdSet
  default : Option Int
  applied : List Int
  document : Document
  diagnostics : List Diagnostic
  error : Option Error
deriving DecidableEq

namespace DocumentResult

def failed (d : Document) (e : Error) : DocumentResult :=
  ⟨d.reference, .empty, none, [], d, [], some e⟩

def found (d : Document) (w : Walk) (a : Application) : DocumentResult :=
  ⟨d.reference, w.matched, w.default, a.applied, a.document, w.diagnostics ++ a.diagnostics, none⟩

def isSuccess (r : DocumentResult) : Bool := r.error.isNone

def listMember (name : String) (items : List Json) : List (String × Json) :=
  if items.isEmpty then [] else [(name, .array items)]

def toJson (r : DocumentResult) : Json :=
  .object <|
    [("reference", .string r.reference), ("matched_collection_ids", .ints r.matched.items)]
    ++ (r.default.toList.map fun id => ("default_collection_id", .int id))
    ++ [("applied_policy_ids", .ints r.applied), ("document", r.document.toJson)]
    ++ listMember "diagnostics" (r.diagnostics.map Diagnostic.toJson)
    ++ (r.error.toList.map fun e => ("error", .object e.members))

end DocumentResult

structure Batch where
  sequenceId : Int
  fingerprint : String
  degraded : Bool
  cancelled : Bool
  results : List DocumentResult
deriving DecidableEq

namespace Batch

def totalMatches (b : Batch) : Nat := b.results.foldl (fun n r => n + r.matched.size) 0

def failedCount (b : Batch) : Nat := b.results.countP fun r => !r.isSuccess

def toJson (b : Batch) : Json :=
  .object [("sequence_id", .int b.sequenceId), ("fingerprint", .string b.fingerprint),
    ("degraded", .bool b.degraded), ("cancelled", .bool b.cancelled),
    ("results", .array (b.results.map DocumentResult.toJson))]

end Batch

namespace Pipeline

def walk (p : Pipeline) (s : Snapshot) (q : Sequence) (d : Document) : Walk :=
  q.walk p.settings.tieBreak (p.leaf.answer s d) p.settings.referenceLimit s

def applyPolicies (p : Pipeline) (s : Snapshot) (sequence : Int) (d : Document) (matched : IdSet) :
    Application :=
  Application.run p.registry p.validator s sequence d matched

/-- The leaves that are asked for the collections of an entry, one list for each collection; after a
leaf that never answers no more are asked for its collection. -/
def askedOf (p : Pipeline) (s : Snapshot) (d : Document) (e : Entry) : List (List Leaf) :=
  (e.collections s).map fun c =>
    let asked := c.asked (p.leaf.answer s d) s p.settings.referenceLimit
    asked.takeWhile (fun l => !p.leaf.silent s d l)
      ++ (asked.dropWhile fun l => !p.leaf.silent s d l).take 1

def stalls (p : Pipeline) (s : Snapshot) (d : Document) (e : Entry) : Bool :=
  (p.askedOf s d e).any fun asked => asked.any (p.leaf.silent s d)

/-- The entries that are looked at: those of the walk, up to one that never gets an answer. -/
def looked (p : Pipeline) (s : Snapshot) (q : Sequence) (d : Document) : List Entry :=
  let reached := q.reached p.settings.tieBreak (p.leaf.answer s d) p.settings.referenceLimit s
  reached.takeWhile (fun e => !p.stalls s d e)
    ++ (reached.dropWhile fun e => !p.stalls s d e).take 1

def asked (p : Pipeline) (s : Snapshot) (q : Sequence) (d : Document) : List Leaf :=
  (p.looked s q d).flatMap fun e => (p.askedOf s d e).flatten

def timesOut (p : Pipeline) (s : Snapshot) (q : Sequence) (d : Document) : Bool :=
  p.settings.timeLimited && (p.looked s q d).any (p.stalls s d)

def process (p : Pipeline) (s : Snapshot) (q : Sequence) (d : Document) :
    DocumentResult × List Attempt :=
  let w := p.walk s q d
  let a := p.applyPolicies s q.id d w.matched
  (.found d w a, a.attempts)

def classifyDocument (p : Pipeline) (s : Snapshot) (q : Sequence) (d : Document) :
    DocumentResult × List Attempt :=
  if p.timesOut s q d then (.failed d .timeout, []) else p.process s q d

/-- Classifies documents one after the other. With each document comes whether the caller cancels while
it is classified; `cancelled` is whether that has happened before. -/
def classifyAll (p : Pipeline) (s : Snapshot) (q : Sequence) (cancelled : Bool) :
    List (Document × Bool) → List (DocumentResult × List Attempt)
  | [] => []
  | (d, cancels) :: rest =>
    if cancelled then (.failed d .cancelled, []) :: p.classifyAll s q true rest
    else p.classifyDocument s q d :: p.classifyAll s q cancels rest

def skips (cancelled : Bool) : List (Document × Bool) → Bool
  | [] => false
  | (_, cancels) :: rest => cancelled || skips cancels rest

def classifyBatch (p : Pipeline) (s : Snapshot) (degraded : Bool) (sequence : Int)
    (cancelled : Bool) (documents : List (Document × Bool)) :
    Except Error (Batch × List Attempt) :=
  match s.sequence? sequence with
  | none => .error (.sequenceNotFound sequence)
  | some q =>
    let classified := p.classifyAll s q cancelled documents
    let results := classified.map Prod.fst
    .ok (⟨sequence, s.fingerprint, degraded, skips cancelled documents, results⟩,
      classified.flatMap Prod.snd)

end Pipeline

end Filing
