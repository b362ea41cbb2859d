import Filing.Classification

/-!
# Counters

What the counters of a pipeline count: batches, documents, their matches, policies and diagnostics,
documents with an error, and snapshots. Counters have 64 bits and wrap around.
-/

namespace Filing

structure Metrics where
  batches : UInt64 := 0
  documents : UInt64 := 0
  documentErrors : UInt64 := 0
  collectionMatches : UInt64 := 0
  policiesApplied : UInt64 := 0
  diagnostics : UInt64 := 0
  snapshotLoads : UInt64 := 0
  degradedBatches : UInt64 := 0
  totalLatency : UInt64 := 0
deriving DecidableEq

namespace Metrics

def recordBatch (m : Metrics) (degraded : Bool) : Metrics :=
  { m with batches := m.batches + 1
           degradedBatches := m.degradedBatches + if degraded then 1 else 0 }

def recordDocument (m : Metrics) (matched policies latency : UInt64) : Metrics :=
  { m with documents := m.documents + 1
           collectionMatches := m.collectionMatches + matched
           policiesApplied := m.policiesApplied + policies
           totalLatency := m.totalLatency + latency }

def recordDocumentError (m : Metrics) : Metrics :=
  { m with documentErrors := m.documentErrors + 1 }

def recordDiagnostics (m : Metrics) (count : UInt64) : Metrics :=
  if count = 0 then m else { m with diagnostics := m.diagnostics + count }

def recordSnapshotLoads (m : Metrics) (count : UInt64) : Metrics :=
  { m with snapshotLoads := m.snapshotLoads + count }

def averageLatency (m : Metrics) : UInt64 := if m.documents = 0 then 0 else m.totalLatency / m.documents

def matchesPerDocument (m : Metrics) : Double :=
  if m.documents = 0 then .zero
  else
    .ofMagnitude false
      ((Double.ofInt m.collectionMatches.toNat).divMagnitude (Double.ofInt m.documents.toNat))

def word (n : UInt64) : Json := .int n.toNat

/-- The counters but those that measure time. -/
def countsJson (m : Metrics) : List (String × Json) :=
  [("batches", word m.batches), ("documents", word m.documents),
    ("document_errors", word m.documentErrors), ("collection_matches", word m.collectionMatches),
    ("policies_applied", word m.policiesApplied), ("diagnostics", word m.diagnostics),
    ("snapshot_loads", word m.snapshotLoads), ("degraded_batches", word m.degradedBatches)]

def toJson (m : Metrics) : Json :=
  .object <| m.countsJson ++
    [("total_latency_us", word m.totalLatency), ("avg_latency_us", word m.averageLatency),
      ("matches_per_document", .double m.matchesPerDocument)]

def counterLine (name : String) (n : UInt64) : String :=
  "docpolicy_" ++ name ++ "_total " ++ intText n.toNat

def counterLines (m : Metrics) : List String :=
  let line (used : Bool) (name : String) (n : UInt64) : List String :=
    if used then [counterLine name n] else []
  line (m.batches ≠ 0) "batches" m.batches
    ++ line (m.documents ≠ 0) "collection_matches" m.collectionMatches
    ++ line (m.degradedBatches ≠ 0) "degraded_batches" m.degradedBatches
    ++ line (m.diagnostics ≠ 0) "diagnostics" m.diagnostics
    ++ line (m.documents ≠ 0) "documents" m.documents
    ++ line (m.documents ≠ 0) "policies_applied" m.policiesApplied
    ++ line (m.snapshotLoads ≠ 0) "snapshot_loads" m.snapshotLoads

end Metrics

end Filing
