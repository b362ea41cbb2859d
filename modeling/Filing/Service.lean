import Filing.Metrics
import Filing.Store

/-!
# The service

A service classifies batches of documents against the snapshot that its store serves, and counts what it
does. `Metrics.snapshotLoads` counts the snapshots that the store has published.
-/

namespace Filing

namespace Pipeline

/-- Counts a document when it is done; how long it took is not known here. -/
def countDocument (p : Pipeline) (s : Snapshot) (q : Sequence) (d : Document) (m : Metrics) : Metrics :=
  if p.timesOut s q d then m.recordDocumentError
  else
    let r := (p.process s q d).1
    (m.recordDocument (.ofNat r.matched.size) (.ofNat r.applied.length) 0).recordDiagnostics
      (.ofNat r.diagnostics.length)

/-- Counts documents one after the other. A document that is not started since the caller has cancelled counts as
one with an error. -/
def countAll (p : Pipeline) (s : Snapshot) (q : Sequence) (cancelled : Bool) :
    List (Document × Bool) → Metrics → Metrics
  | [], m => m
  | (d, cancels) :: rest, m =>
    if cancelled then p.countAll s q true rest m.recordDocumentError
    else p.countAll s q cancels rest (p.countDocument s q d m)

end Pipeline

structure Service where
  pipeline : Pipeline
  store : Store := {}
  metrics : Metrics := {}

namespace Service

def get (source : Source) (now : Nat) (v : Service) : Except Error Served × Service :=
  let (served, store) := v.store.get source now
  let published := store.published - v.store.published
  (served, { v with store, metrics := v.metrics.recordSnapshotLoads (.ofNat published) })

def invalidate (v : Service) : Service := { v with store := v.store.invalidate }

def checkForChanges (source : Source) (v : Service) : Bool × Service :=
  let (changed, store) := v.store.checkForChanges source
  (changed, { v with store })

def count (served : Served) (sequence : Int) (cancelled : Bool) (documents : List (Document × Bool))
    (v : Service) : Service :=
  match served.snapshot.sequence? sequence with
  | none => v
  | some q =>
    let counted := v.metrics.recordBatch served.degraded
    { v with metrics := v.pipeline.countAll served.snapshot q cancelled documents counted }

/-- Classifies a batch of documents. With each document comes whether the caller cancels while it is
classified; `cancelled` is whether that has happened before. -/
def classify (source : Source) (now : Nat) (sequence : Int) (cancelled : Bool)
    (documents : Snapshot → List (Document × Bool)) (v : Service) :
    Except Error (Batch × List Attempt) × Service :=
  let (served, v) := v.get source now
  match served with
  | .error e => (.error e, v)
  | .ok served =>
    let documents := documents served.snapshot
    (v.pipeline.classifyBatch served.snapshot served.degraded sequence cancelled documents,
      v.count served sequence cancelled documents)

end Service

end Filing
