import Filing.Proofs.Store.Polling
import Filing.Proofs.Store.Supersession

/-!
# What the counters say

Counters are raised where something happens: when the sequence of a batch is found, when a document is done, given up
or not started, and when a snapshot is published. Results know nothing of that. Still, after any use of a service,
the counters say the same as all batches that have been returned together, modulo `2 ^ 64`.
-/

namespace Filing

namespace Metrics

def total (size : DocumentResult → Nat) : List DocumentResult → Nat
  | [] => 0
  | r :: rs => size r + total size rs

theorem total_append (size : DocumentResult → Nat) (rs rs' : List DocumentResult) :
    total size (rs ++ rs') = total size rs + total size rs' := by
  induction rs with
  | nil => exact (Nat.zero_add _).symm
  | cons r rs ih => rw [List.cons_append, total, ih, total, Nat.add_assoc]

theorem recordDiagnostics_eq (m : Metrics) (count : UInt64) :
    m.recordDiagnostics count = { m with diagnostics := m.diagnostics + count } := by
  unfold recordDiagnostics
  split
  · rename_i h
    rw [h, UInt64.add_zero]
  · rfl

/-- Counters to which the results have been added, and nothing else. -/
structure Gains (m : Metrics) (results : List DocumentResult) (m' : Metrics) : Prop where
  batches : m'.batches = m.batches
  degradedBatches : m'.degradedBatches = m.degradedBatches
  snapshotLoads : m'.snapshotLoads = m.snapshotLoads
  documents : m'.documents = m.documents + .ofNat (results.countP DocumentResult.isSuccess)
  documentErrors : m'.documentErrors = m.documentErrors + .ofNat (results.countP fun r => !r.isSuccess)
  collectionMatches : m'.collectionMatches = m.collectionMatches + .ofNat (total (fun r => r.matched.size) results)
  policiesApplied : m'.policiesApplied = m.policiesApplied + .ofNat (total (fun r => r.applied.length) results)
  diagnostics : m'.diagnostics = m.diagnostics + .ofNat (total (fun r => r.diagnostics.length) results)

namespace Gains
variable {m m' m'' : Metrics} {rs rs' : List DocumentResult}

theorem refl (m : Metrics) : m.Gains [] m := by
  constructor <;> first | rfl | exact (UInt64.add_zero _).symm

theorem trans (h : m.Gains rs m') (h' : m'.Gains rs' m'') : m.Gains (rs ++ rs') m'' where
  batches := h'.batches.trans h.batches
  degradedBatches := h'.degradedBatches.trans h.degradedBatches
  snapshotLoads := h'.snapshotLoads.trans h.snapshotLoads
  documents := by rw [h'.documents, h.documents, List.countP_append, UInt64.ofNat_add, UInt64.add_assoc]
  documentErrors := by
    rw [h'.documentErrors, h.documentErrors, List.countP_append, UInt64.ofNat_add, UInt64.add_assoc]
  collectionMatches := by
    rw [h'.collectionMatches, h.collectionMatches, total_append, UInt64.ofNat_add, UInt64.add_assoc]
  policiesApplied := by
    rw [h'.policiesApplied, h.policiesApplied, total_append, UInt64.ofNat_add, UInt64.add_assoc]
  diagnostics := by
    rw [h'.diagnostics, h.diagnostics, total_append, UInt64.ofNat_add, UInt64.add_assoc]

theorem failed (m : Metrics) (d : Document) (e : Error) : m.Gains [.failed d e] m.recordDocumentError := by
  constructor <;> first | rfl | exact (UInt64.add_zero _).symm

theorem processed (m : Metrics) {r : DocumentResult} (h : r.error = none) :
    m.Gains [r] ((m.recordDocument (.ofNat r.matched.size) (.ofNat r.applied.length) 0).recordDiagnostics
      (.ofNat r.diagnostics.length)) := by
  have hsuccess : r.isSuccess = true := by rw [DocumentResult.isSuccess, h, Option.isNone_none]
  rw [recordDiagnostics_eq]
  constructor <;> simp [recordDocument, total, hsuccess]

end Gains

structure Agrees (m : Metrics) (returned : List Batch) (published : Nat) : Prop where
  batches : m.batches = .ofNat returned.length
  degradedBatches : m.degradedBatches = .ofNat (returned.countP Batch.degraded)
  documents : m.documents = .ofNat ((returned.flatMap Batch.results).countP DocumentResult.isSuccess)
  documentErrors : m.documentErrors = .ofNat ((returned.flatMap Batch.results).countP fun r => !r.isSuccess)
  collectionMatches :
    m.collectionMatches = .ofNat (total (fun r => r.matched.size) (returned.flatMap Batch.results))
  policiesApplied :
    m.policiesApplied = .ofNat (total (fun r => r.applied.length) (returned.flatMap Batch.results))
  diagnostics : m.diagnostics = .ofNat (total (fun r => r.diagnostics.length) (returned.flatMap Batch.results))
  snapshotLoads : m.snapshotLoads = .ofNat published

namespace Agrees
variable {m m' : Metrics} {returned : List Batch} {published : Nat}

theorem publish (h : m.Agrees returned published) (count : Nat) :
    (m.recordSnapshotLoads (.ofNat count)).Agrees returned (published + count) := by
  refine ⟨h.batches, h.degradedBatches, h.documents, h.documentErrors, h.collectionMatches, h.policiesApplied,
    h.diagnostics, ?_⟩
  rw [recordSnapshotLoads, h.snapshotLoads, UInt64.ofNat_add]

theorem returns (h : m.Agrees returned published) (b : Batch)
    (hgains : (m.recordBatch b.degraded).Gains b.results m') : m'.Agrees (returned ++ [b]) published where
  batches := by
    rw [hgains.batches, recordBatch, h.batches, List.length_append, UInt64.ofNat_add]
    rfl
  degradedBatches := by
    rw [hgains.degradedBatches, recordBatch, h.degradedBatches, List.countP_append, UInt64.ofNat_add]
    cases hd : b.degraded <;> simp [hd]
  documents := by
    rw [hgains.documents, recordBatch, h.documents, List.flatMap_append, List.countP_append, UInt64.ofNat_add,
      List.flatMap_singleton]
  documentErrors := by
    rw [hgains.documentErrors, recordBatch, h.documentErrors, List.flatMap_append, List.countP_append,
      UInt64.ofNat_add, List.flatMap_singleton]
  collectionMatches := by
    rw [hgains.collectionMatches, recordBatch, h.collectionMatches, List.flatMap_append, total_append,
      UInt64.ofNat_add, List.flatMap_singleton]
  policiesApplied := by
    rw [hgains.policiesApplied, recordBatch, h.policiesApplied, List.flatMap_append, total_append,
      UInt64.ofNat_add, List.flatMap_singleton]
  diagnostics := by
    rw [hgains.diagnostics, recordBatch, h.diagnostics, List.flatMap_append, total_append,
      UInt64.ofNat_add, List.flatMap_singleton]
  snapshotLoads := hgains.snapshotLoads.trans h.snapshotLoads

end Agrees

end Metrics

namespace Pipeline
variable (p : Pipeline) (s : Snapshot) (q : Sequence)

theorem countDocument_gains (d : Document) (m : Metrics) :
    m.Gains [(p.classifyDocument s q d).1] (p.countDocument s q d m) := by
  unfold classifyDocument countDocument
  split
  · exact .failed m d .timeout
  · exact .processed m rfl

/-- What is counted is what is returned, whenever the caller cancels. -/
theorem countAll_gains (documents : List (Document × Bool)) : ∀ (cancelled : Bool) (m : Metrics),
    m.Gains ((p.classifyAll s q cancelled documents).map Prod.fst) (p.countAll s q cancelled documents m) := by
  induction documents with
  | nil => exact fun _ m => .refl m
  | cons head rest ih =>
    intro cancelled m
    obtain ⟨d, cancels⟩ := head
    cases cancelled with
    | true => exact (Metrics.Gains.failed m d .cancelled).trans (ih true _)
    | false => exact (p.countDocument_gains s q d m).trans (ih cancels _)

end Pipeline

namespace Session

def metrics (n : Session) : Metrics := n.service.metrics

def classify (n : Session) (now : Nat) (sequence : Int) (cancelled : Bool)
    (documents : Snapshot → List (Document × Bool)) : Except Error Batch × Session :=
  let (answer, service) := n.service.classify n.source now sequence cancelled documents
  (answer.map Prod.fst, { n with service })

variable {n : Session} {now : Nat} {sequence : Int} {cancelled : Bool} {documents : Snapshot → List (Document × Bool)}

theorem metrics_get (n : Session) (now : Nat) : (n.step (.get now)).metrics =
    n.metrics.recordSnapshotLoads (.ofNat ((n.step (.get now)).store.published - n.store.published)) := rfl

/-- A call counts the batch that it returns. If it fails it has done nothing but ask for the snapshot. -/
theorem classify_spec (n : Session) (now : Nat) (sequence : Int) (cancelled : Bool)
    (documents : Snapshot → List (Document × Bool)) :
    (∃ b, (n.classify now sequence cancelled documents).1 = .ok b ∧
        (n.classify now sequence cancelled documents).2.store = (n.step (.get now)).store ∧
        ((n.step (.get now)).metrics.recordBatch b.degraded).Gains b.results
          (n.classify now sequence cancelled documents).2.metrics) ∨
      ∃ e, (n.classify now sequence cancelled documents).1 = .error e ∧
        (n.classify now sequence cancelled documents).2 = n.step (.get now) ∧
        (e = .sequenceNotFound sequence ∨ e.kind = "configuration_unavailable") := by
  cases hserved : (n.service.get n.source now).1 with
  | error e =>
    have hcall : n.classify now sequence cancelled documents = (.error e, n.step (.get now)) := by
      simp only [classify, Service.classify, hserved]
      rfl
    rw [hcall]
    exact .inr ⟨e, rfl, rfl, .inr (Store.kind_of_get hserved)⟩
  | ok served =>
    cases hq : served.snapshot.sequence? sequence with
    | none =>
      have hcall : n.classify now sequence cancelled documents =
          (.error (.sequenceNotFound sequence), n.step (.get now)) := by
        simp only [classify, Service.classify, hserved, Pipeline.classifyBatch, Service.count, hq]
        rfl
      rw [hcall]
      exact .inr ⟨_, rfl, rfl, .inl rfl⟩
    | some q =>
      let m := (n.step (.get now)).metrics.recordBatch served.degraded
      have hgains := n.service.pipeline.countAll_gains served.snapshot q (documents served.snapshot) cancelled m
      simp only [classify, Service.classify, hserved, Pipeline.classifyBatch, Service.count, hq]
      exact .inl ⟨_, rfl, rfl, hgains⟩

theorem metrics_get_spec (n : Session) (now : Nat) :
    (n.step (.get now)).store.editions = n.store.editions ∧ (n.step (.get now)).metrics = n.metrics ∨
      ∃ b, (n.step (.get now)).store.editions = b :: n.store.editions ∧
        (n.step (.get now)).metrics = { n.metrics with snapshotLoads := n.metrics.snapshotLoads + 1 } := by
  rcases n.store.get_spec n.source now with ⟨b, -, -, hbooks⟩ | ⟨hbooks, -⟩
  · have hpublished : (n.step (.get now)).store.published = n.store.published + 1 := hbooks.published
    refine .inr ⟨b, hbooks.editions, ?_⟩
    rw [metrics_get, hpublished, Nat.add_sub_cancel_left]
    rfl
  · have hpublished : (n.step (.get now)).store.published = n.store.published := hbooks.published
    refine .inl ⟨hbooks.editions, ?_⟩
    rw [metrics_get, hpublished, Nat.sub_self, Metrics.recordSnapshotLoads]
    congr 1
    exact UInt64.add_zero _

end Session

/-- What a service is used for: it is given another source or its store is used, or documents are classified. -/
inductive Activity where
  | use (use : Use)
  | classify (now : Nat) (sequence : Int) (cancelled : Bool) (documents : Snapshot → List (Document × Bool))

structure History where
  session : Session
  answers : List (Except Error Batch) := []

namespace History

def step (h : History) : Activity → History
  | .use use => { h with session := h.session.step use }
  | .classify now sequence cancelled documents =>
    let (answer, session) := h.session.classify now sequence cancelled documents
    ⟨session, h.answers ++ [answer]⟩

def after (h : History) (activities : List Activity) : History := activities.foldl step h

def batches (h : History) : List Batch := h.answers.filterMap Except.toOption

structure Accounted (h : History) : Prop where
  agrees : h.session.metrics.Agrees h.batches h.session.store.editions.length
  /-- A call fails because its sequence or the configuration is not there. It counts a publication, if there is one,
  and nothing else. -/
  failing : ∀ now sequence cancelled documents e,
    (h.session.classify now sequence cancelled documents).1 = .error e →
      (e = .sequenceNotFound sequence ∨ e.kind = "configuration_unavailable") ∧
        let n := (h.session.classify now sequence cancelled documents).2
        n.store.editions = h.session.store.editions ∧ n.metrics = h.session.metrics ∨
          ∃ b, n.store.editions = b :: h.session.store.editions ∧
            n.metrics = { h.session.metrics with snapshotLoads := h.session.metrics.snapshotLoads + 1 }

variable {h : History}

theorem agrees_step_use (hagrees : h.session.metrics.Agrees h.batches h.session.store.editions.length) (use : Use) :
    (h.session.step use).metrics.Agrees h.batches (h.session.step use).store.editions.length := by
  cases use with
  | source source => exact hagrees
  | invalidate => exact hagrees
  | checkForChanges =>
    have hbooks := h.session.store.sameBooks_checkForChanges h.session.source
    have heditions : (h.session.step .checkForChanges).store.editions = h.session.store.editions := hbooks.editions
    rw [heditions]
    exact hagrees
  | get now =>
    rcases h.session.metrics_get_spec now with ⟨heditions, hmetrics⟩ | ⟨b, heditions, hmetrics⟩
    · rw [heditions, hmetrics]
      exact hagrees
    · rw [heditions, hmetrics]
      exact hagrees.publish 1

theorem agrees_step (hagrees : h.session.metrics.Agrees h.batches h.session.store.editions.length)
    (activity : Activity) :
    (h.step activity).session.metrics.Agrees (h.step activity).batches
      (h.step activity).session.store.editions.length := by
  cases activity with
  | use use => exact agrees_step_use hagrees use
  | classify now sequence cancelled documents =>
    have hget := agrees_step_use hagrees (.get now)
    have hbatches : (h.step (.classify now sequence cancelled documents)).batches =
        h.batches ++ (h.session.classify now sequence cancelled documents).1.toOption.toList := by
      simp only [batches, step, List.filterMap_append, List.filterMap_cons, List.filterMap_nil]
      cases (h.session.classify now sequence cancelled documents).1 <;> rfl
    rw [hbatches]
    rcases h.session.classify_spec now sequence cancelled documents with
      ⟨b, hb, hstore, hgains⟩ | ⟨e, he, hsession, -⟩
    · rw [hb]
      have hreturns := hget.returns b hgains
      rw [← hstore] at hreturns
      exact hreturns
    · rw [he]
      simp only [Except.toOption, Option.toList_none, List.append_nil]
      simp only [step, hsession]
      exact hget

theorem agrees_after (activities : List Activity) :
    ∀ {h : History}, h.session.metrics.Agrees h.batches h.session.store.editions.length →
      (h.after activities).session.metrics.Agrees (h.after activities).batches
        (h.after activities).session.store.editions.length := by
  induction activities with
  | nil => exact fun hagrees => hagrees
  | cons activity activities ih => exact fun hagrees => ih (agrees_step hagrees activity)

/-- Whatever a service is used for, and with whatever sources, its counters agree with what it has returned. -/
theorem accounted_after (pipeline : Pipeline) (interval : Option Nat) (source : Source)
    (activities : List Activity) :
    (History.after { session := .start pipeline interval source } activities).Accounted := by
  have hstart : (Session.start pipeline interval source).metrics.Agrees [] 0 := by constructor <;> rfl
  refine ⟨agrees_after activities hstart, fun now sequence cancelled documents e he => ?_⟩
  generalize History.after { session := .start pipeline interval source } activities = h at he ⊢
  rcases h.session.classify_spec now sequence cancelled documents with ⟨b, hb, -, -⟩ | ⟨e', he', hsession, hkind⟩
  · rw [hb] at he
    cases he
  · obtain rfl := Except.error.inj (he'.symm.trans he)
    refine ⟨hkind, ?_⟩
    rw [hsession]
    exact h.session.metrics_get_spec now

/-- The caller cancels during the second letter, so the third is not started; the next call has no sequence. -/
example :
    let letters : Configuration := {
      sequences := [⟨1, "letters", none, [⟨1, false, .ofList [1], none⟩]⟩]
      collections := [⟨1, "letter", none, .and [], .empty⟩] }
    let pipeline : Pipeline := ⟨⟨fun _ _ _ => .ok true, fun _ _ _ => false⟩, .empty, fun _ _ => [], {}⟩
    let documents := [(.new "a", false), (.new "b", true), (.new "c", false)]
    (History.after { session := .start pipeline none (.fixed (some letters)) }
      [.classify 0 1 false fun _ => documents, .classify 0 2 false fun _ => documents]).session.metrics =
        { batches := 1, documents := 2, documentErrors := 1, collectionMatches := 2, snapshotLoads := 1 } := by
  decide +kernel

end History

end Filing
