import Filing.Classification
import Filing.Condition.Leaf
import Filing.Proofs.Snapshot.Canonical

/-!
# What a classification depends on

No step of a classification looks at when the snapshot was last modified, the evaluator of leaves apart,
which is given the whole snapshot. With an evaluator that does not look at it either, as the built-in one,
what comes of a batch of documents does not depend on it.
-/

namespace Filing

def Pipeline.builtIn (registry : Registry) (validator : Validator) (settings : Settings) : Pipeline :=
  ⟨⟨Leaf.evaluate, fun _ _ _ => false⟩, registry, validator, settings⟩

def Pipeline.outcome (p : Pipeline) (s : Snapshot) (sequence : Int) (d : Document) :
    Option DocumentResult :=
  (s.sequence? sequence).map fun q => (p.classifyDocument s q d).1

variable {s : Snapshot} {modified : Option Instant}

theorem Snapshot.condition?_dated (id : Int) : (s.dated modified).condition? id = s.condition? id := rfl

theorem Condition.evaluateAt_dated (leaf : Leaf → Verdict) (limit : Nat) :
    ∀ (left : Nat) (c : Condition),
      c.evaluateAt leaf (s.dated modified) limit left = c.evaluateAt leaf s limit left := by
  intro left
  induction left with
  | zero => exact fun _ => rfl
  | succ left ih =>
    intro c
    simp only [evaluateAt, Snapshot.condition?_dated, ih]

theorem Collection.evaluate_dated (leaf : Leaf → Verdict) (limit : Nat) :
    Collection.evaluate leaf (s.dated modified) limit = Collection.evaluate leaf s limit := by
  funext c
  simp only [evaluate, Condition.evaluate, Condition.evaluateAt_dated]

theorem Sequence.walk_dated (tieBreak : TieBreak) (leaf : Leaf → Verdict) (limit : Nat) (q : Sequence) :
    q.walk tieBreak leaf limit (s.dated modified) = q.walk tieBreak leaf limit s := by
  rw [walk, Collection.evaluate_dated]
  rfl

theorem Condition.askedAt_dated (leaf : Leaf → Verdict) (limit : Nat) :
    ∀ (left : Nat) (c : Condition),
      c.askedAt leaf (s.dated modified) limit left = c.askedAt leaf s limit left := by
  intro left
  induction left with
  | zero => exact fun _ => rfl
  | succ left ih =>
    intro c
    simp only [askedAt, Snapshot.condition?_dated, ih, evaluateAt_dated]

theorem Collection.asked_dated (leaf : Leaf → Verdict) (limit : Nat) (c : Collection) :
    c.asked leaf (s.dated modified) limit = c.asked leaf s limit :=
  c.condition.askedAt_dated leaf limit limit

structure LeafEvaluator.Undated (l : LeafEvaluator) : Prop where
  answer : ∀ (s : Snapshot) (modified : Option Instant), l.answer (s.dated modified) = l.answer s
  silent : ∀ (s : Snapshot) (modified : Option Instant), l.silent (s.dated modified) = l.silent s

namespace Pipeline
variable {registry : Registry} {validator : Validator} {settings : Settings} {p : Pipeline}

theorem builtIn_undated : (builtIn registry validator settings).leaf.Undated :=
  ⟨fun _ _ => rfl, fun _ _ => rfl⟩

theorem walk_dated (h : p.leaf.Undated) (q : Sequence) (d : Document) :
    p.walk (s.dated modified) q d = p.walk s q d := by
  rw [walk, h.answer, Sequence.walk_dated]
  rfl

theorem askedOf_dated (h : p.leaf.Undated) (d : Document) (e : Entry) :
    p.askedOf (s.dated modified) d e = p.askedOf s d e := by
  have hcollections : e.collections (s.dated modified) = e.collections s := rfl
  simp only [askedOf, hcollections, Collection.asked_dated, h.answer, h.silent]

theorem stalls_dated (h : p.leaf.Undated) (d : Document) :
    p.stalls (s.dated modified) d = p.stalls s d := by
  funext e
  rw [stalls, askedOf_dated h, h.silent]
  rfl

theorem looked_dated (h : p.leaf.Undated) (q : Sequence) (d : Document) :
    p.looked (s.dated modified) q d = p.looked s q d := by
  simp only [looked, Sequence.reached, Sequence.walk_dated, stalls_dated h, h.answer]

theorem classifyDocument_dated (h : p.leaf.Undated) (q : Sequence) (d : Document) :
    p.classifyDocument (s.dated modified) q d = p.classifyDocument s q d := by
  have htimesOut : p.timesOut (s.dated modified) q d = p.timesOut s q d := by
    rw [timesOut, looked_dated h, stalls_dated h]
    rfl
  have hprocess : p.process (s.dated modified) q d = p.process s q d := by
    simp only [process, walk_dated h]
    rfl
  rw [classifyDocument, htimesOut, hprocess]
  rfl

theorem classifyAll_dated (h : p.leaf.Undated) (q : Sequence) :
    ∀ (documents : List (Document × Bool)) (cancelled : Bool),
      p.classifyAll (s.dated modified) q cancelled documents = p.classifyAll s q cancelled documents := by
  intro documents
  induction documents with
  | nil => exact fun _ => rfl
  | cons document rest ih =>
    intro cancelled
    simp only [classifyAll, classifyDocument_dated h, ih]

theorem classifyBatch_dated (h : p.leaf.Undated) (degraded : Bool) (sequence : Int) (cancelled : Bool)
    (documents : List (Document × Bool)) :
    p.classifyBatch (s.dated modified) degraded sequence cancelled documents =
      p.classifyBatch s degraded sequence cancelled documents := by
  simp only [classifyBatch, classifyAll_dated h]
  rfl

theorem stalls_builtIn (d : Document) (e : Entry) :
    (builtIn registry validator settings).stalls s d e = false := by
  simp [stalls, builtIn]

theorem classifyDocument_builtIn (q : Sequence) (d : Document) :
    (builtIn registry validator settings).classifyDocument s q d =
      (builtIn registry validator settings).process s q d := by
  simp [classifyDocument, timesOut, stalls_builtIn]

theorem classifyAll_of_uncancelled (p : Pipeline) (s : Snapshot) (q : Sequence) (documents : List Document) :
    p.classifyAll s q false (documents.map fun d => (d, false)) = documents.map (p.classifyDocument s q) := by
  induction documents with
  | nil => rfl
  | cons d documents ih =>
    rw [List.map_cons, List.map_cons, classifyAll, if_neg Bool.false_ne_true, ih]

theorem outcome_dated (sequence : Int) (d : Document) :
    (builtIn registry validator settings).outcome (s.dated modified) sequence d =
      (builtIn registry validator settings).outcome s sequence d := by
  simp only [outcome, classifyDocument_dated builtIn_undated]
  rfl

end Pipeline

def Snapshot.Agrees (s t : Snapshot) : Prop :=
  ∀ (registry : Registry) (validator : Validator) (settings : Settings) (sequence : Int) (d : Document),
    (Pipeline.builtIn registry validator settings).outcome s sequence d =
      (Pipeline.builtIn registry validator settings).outcome t sequence d

end Filing
