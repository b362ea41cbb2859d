import Filing.Proofs.Classification
import Filing.Service

/-!
# Batches that are cancelled

The caller may cancel before a batch or while one of its documents is classified. A document that is started later
is given back as it is, and no other one is affected: it is classified as it would be alone. So a batch has one
result for each document, in their order, and cancelling cuts the batch in two at one place.
-/

namespace Filing

namespace Pipeline

/-- Whether the caller has cancelled before the document at a place is started. -/
def cancelledBefore (cancelled : Bool) (documents : List (Document × Bool)) (place : Nat) : Bool :=
  cancelled || (documents.take place).any Prod.snd

theorem cancelledBefore_zero (cancelled : Bool) (documents : List (Document × Bool)) :
    cancelledBefore cancelled documents 0 = cancelled := by
  simp [cancelledBefore]

theorem cancelledBefore_succ (cancelled : Bool) (document : Document × Bool) (rest : List (Document × Bool))
    (place : Nat) : cancelledBefore cancelled (document :: rest) (place + 1) =
      cancelledBefore (cancelled || document.2) rest place := by
  simp [cancelledBefore, Bool.or_assoc]

variable (p : Pipeline) (s : Snapshot) (q : Sequence)

/-- What comes of a document, given whether the caller has cancelled before it is started. -/
def answer (cancelled : Bool) (d : Document) : DocumentResult × List Attempt :=
  if cancelled then (.failed d .cancelled, []) else p.classifyDocument s q d

theorem classifyAll_cons (cancelled : Bool) (document : Document × Bool) (rest : List (Document × Bool)) :
    p.classifyAll s q cancelled (document :: rest) =
      p.answer s q cancelled document.1 :: p.classifyAll s q (cancelled || document.2) rest := by
  cases cancelled <;> rfl

theorem getElem?_classifyAll (documents : List (Document × Bool)) : ∀ (cancelled : Bool) (place : Nat),
    (p.classifyAll s q cancelled documents)[place]? =
      documents[place]?.map fun document =>
        p.answer s q (cancelledBefore cancelled documents place) document.1 := by
  induction documents with
  | nil => exact fun _ _ => rfl
  | cons document rest ih =>
    intro cancelled place
    rw [classifyAll_cons]
    cases place with
    | zero => simp [cancelledBefore_zero]
    | succ place =>
      rw [List.getElem?_cons_succ, List.getElem?_cons_succ, ih]
      simp only [cancelledBefore_succ]

theorem skips_iff (documents : List (Document × Bool)) : ∀ cancelled : Bool,
    skips cancelled documents = true ↔
      ∃ place, place < documents.length ∧ cancelledBefore cancelled documents place = true := by
  induction documents with
  | nil => simp [skips]
  | cons document rest ih =>
    intro cancelled
    cases cancelled with
    | true =>
      constructor
      · intro _
        exact ⟨0, Nat.zero_lt_succ _, cancelledBefore_zero true _⟩
      · exact fun _ => rfl
    | false =>
      have hskips : skips false (document :: rest) = skips document.2 rest := rfl
      rw [hskips, ih]
      constructor
      · rintro ⟨place, hlt, h⟩
        refine ⟨place + 1, Nat.succ_lt_succ hlt, ?_⟩
        rw [cancelledBefore_succ]
        exact h
      · rintro ⟨place, hlt, h⟩
        cases place with
        | zero =>
          rw [cancelledBefore_zero] at h
          cases h
        | succ place =>
          rw [cancelledBefore_succ] at h
          exact ⟨place, Nat.lt_of_succ_lt_succ hlt, h⟩

variable {p s q} {d : Document}

theorem classifyDocument_cases (p : Pipeline) (s : Snapshot) (q : Sequence) (d : Document) :
    (p.classifyDocument s q d).1.error = none ∧ (p.classifyDocument s q d).1.reference = d.reference ∨
      p.settings.timeLimited = true ∧ (p.classifyDocument s q d).1 = .failed d .timeout := by
  unfold classifyDocument
  by_cases h : p.timesOut s q d = true
  · right
    rw [if_pos h]
    exact ⟨(Bool.and_eq_true_iff.mp h).1, rfl⟩
  · left
    rw [if_neg h]
    exact ⟨rfl, rfl⟩

theorem error_answer_cancelled (cancelled : Bool) :
    (p.answer s q cancelled d).1.error = some .cancelled ↔ cancelled = true := by
  cases cancelled with
  | true => simp [answer, DocumentResult.failed]
  | false =>
    rcases p.classifyDocument_cases s q d with ⟨h, -⟩ | ⟨-, h⟩
    · simp [answer, h]
    · simp [answer, h, DocumentResult.failed]

theorem reference_answer (cancelled : Bool) : (p.answer s q cancelled d).1.reference = d.reference := by
  cases cancelled with
  | true => rfl
  | false =>
    rcases p.classifyDocument_cases s q d with ⟨-, h⟩ | ⟨-, h⟩
    · exact h
    · exact congrArg DocumentResult.reference h

theorem answer_of_error {cancelled : Bool} {e : Error} (h : (p.answer s q cancelled d).1.error = some e) :
    (p.answer s q cancelled d).1 = .failed d e ∧ (p.settings.timeLimited = false → e = .cancelled) := by
  cases cancelled with
  | true =>
    obtain rfl := Option.some.inj h
    exact ⟨rfl, fun _ => rfl⟩
  | false =>
    have hanswer : p.answer s q false d = p.classifyDocument s q d := rfl
    rw [hanswer] at h ⊢
    rcases p.classifyDocument_cases s q d with ⟨hnone, -⟩ | ⟨hlimited, hfailed⟩
    · rw [hnone] at h
      cases h
    · rw [hfailed] at h
      obtain rfl := Option.some.inj h
      refine ⟨hfailed, fun hfree => ?_⟩
      rw [hlimited] at hfree
      cases hfree

end Pipeline

theorem Batch.totalMatches_eq_length (b : Batch) :
    b.totalMatches = (b.results.flatMap fun r => r.matched.items).length := by
  have hcount : ∀ (results : List DocumentResult) (n : Nat),
      results.foldl (fun n r => n + r.matched.size) n =
        n + (results.flatMap fun r => r.matched.items).length := by
    intro results
    induction results with
    | nil => exact fun n => rfl
    | cons r results ih =>
      intro n
      rw [List.foldl_cons, ih, List.flatMap_cons, List.length_append, Index.size]
      omega
  rw [totalMatches, hcount, Nat.zero_add]

/-- A batch of results for documents, of which each comes with whether the caller cancels while it is classified. -/
structure Batch.Answers (p : Pipeline) (s : Snapshot) (sequence : Int) (cancelled : Bool)
    (documents : List (Document × Bool)) (b : Batch) : Prop where
  references : b.results.map DocumentResult.reference = documents.map fun document => document.1.reference
  failed : ∀ (place : Nat) d cancels r e, documents[place]? = some (d, cancels) → b.results[place]? = some r →
    r.error = some e → r = ⟨d.reference, .empty, none, [], d, [], some e⟩
  unlimited : p.settings.timeLimited = false → ∀ r ∈ b.results, r.error = none ∨ r.error = some .cancelled
  /-- Any other result is that of a batch of this one document. -/
  alone : ∀ (place : Nat) d cancels r, documents[place]? = some (d, cancels) → b.results[place]? = some r →
    r.error ≠ some .cancelled → ∃ single attempts,
      p.classifyBatch s b.degraded sequence false [(d, false)] = .ok (single, attempts) ∧ single.results = [r]
  flagged : b.cancelled = true ↔ ∃ r ∈ b.results, r.error = some .cancelled
  late : ∀ (place : Nat) r, b.results[place]? = some r →
    (r.error = some .cancelled ↔ Pipeline.cancelledBefore cancelled documents place = true)
  failedCount : b.failedCount = (b.results.filter fun r => r.error.isSome).length
  totalMatches : b.totalMatches = (b.results.flatMap fun r => r.matched.items).length

namespace Pipeline

theorem answers_classifyBatch {p : Pipeline} {s : Snapshot} {sequence : Int} {q : Sequence}
    (hq : s.sequence? sequence = some q) (degraded cancelled : Bool) (documents : List (Document × Bool)) :
    ∃ b attempts, p.classifyBatch s degraded sequence cancelled documents = .ok (b, attempts) ∧
      b.Answers p s sequence cancelled documents := by
  have hbatch (cancelled : Bool) (documents : List (Document × Bool)) :
      p.classifyBatch s degraded sequence cancelled documents =
        .ok (⟨sequence, s.fingerprint, degraded, skips cancelled documents,
          (p.classifyAll s q cancelled documents).map Prod.fst⟩,
          (p.classifyAll s q cancelled documents).flatMap Prod.snd) := by
    simp only [classifyBatch, hq]
  refine ⟨_, _, hbatch cancelled documents, ?_⟩
  have hplace (place : Nat) : ((p.classifyAll s q cancelled documents).map Prod.fst)[place]? =
      documents[place]?.map fun document =>
        (p.answer s q (cancelledBefore cancelled documents place) document.1).1 := by
    rw [List.getElem?_map, getElem?_classifyAll, Option.map_map]
    rfl
  have hresult {place : Nat} {r : DocumentResult}
      (hr : ((p.classifyAll s q cancelled documents).map Prod.fst)[place]? = some r) :
      ∃ document, documents[place]? = some document ∧
        (p.answer s q (cancelledBefore cancelled documents place) document.1).1 = r := by
    rw [hplace] at hr
    exact Option.map_eq_some_iff.mp hr
  have hlate (place : Nat) (r : DocumentResult)
      (hr : ((p.classifyAll s q cancelled documents).map Prod.fst)[place]? = some r) :
      r.error = some .cancelled ↔ cancelledBefore cancelled documents place = true := by
    obtain ⟨document, -, rfl⟩ := hresult hr
    exact error_answer_cancelled _
  constructor
  case references =>
    refine List.ext_getElem? fun place => ?_
    rw [List.getElem?_map, hplace, List.getElem?_map, Option.map_map]
    refine congrArg (Option.map · documents[place]?) (funext fun document => ?_)
    exact reference_answer _
  case failed =>
    intro place d cancels r e hd hr he
    obtain ⟨document, hdocument, rfl⟩ := hresult hr
    obtain rfl := Option.some.inj (hdocument.symm.trans hd)
    exact (answer_of_error he).1
  case unlimited =>
    intro hfree r hr
    obtain ⟨place, hr⟩ := List.mem_iff_getElem?.mp hr
    obtain ⟨document, -, rfl⟩ := hresult hr
    cases he : (p.answer s q (cancelledBefore cancelled documents place) document.1).1.error with
    | none => exact .inl rfl
    | some e =>
      obtain rfl := (answer_of_error he).2 hfree
      exact .inr rfl
  case alone =>
    intro place d cancels r hd hr hne
    have hbefore : cancelledBefore cancelled documents place = false := by
      rw [Bool.eq_false_iff]
      exact fun h => hne ((hlate place r hr).mpr h)
    obtain ⟨document, hdocument, rfl⟩ := hresult hr
    obtain rfl := Option.some.inj (hdocument.symm.trans hd)
    refine ⟨_, _, hbatch false [(d, false)], ?_⟩
    rw [hbefore]
    rfl
  case flagged =>
    rw [skips_iff]
    constructor
    · rintro ⟨place, hlt, hbefore⟩
      have hr : ((p.classifyAll s q cancelled documents).map Prod.fst)[place]? =
          some (p.answer s q (cancelledBefore cancelled documents place) documents[place].1).1 := by
        rw [hplace, List.getElem?_eq_getElem hlt, Option.map_some]
      exact ⟨_, List.mem_of_getElem? hr, (hlate place _ hr).mpr hbefore⟩
    · rintro ⟨r, hr, he⟩
      obtain ⟨place, hr⟩ := List.mem_iff_getElem?.mp hr
      obtain ⟨document, hdocument, -⟩ := hresult hr
      exact ⟨place, (List.getElem?_eq_some_iff.mp hdocument).1, (hlate place r hr).mp he⟩
  case late => exact hlate
  case failedCount =>
    rw [Batch.failedCount, List.countP_eq_length_filter]
    refine congrArg List.length (List.filter_congr fun r _ => ?_)
    simp [DocumentResult.isSuccess]
  case totalMatches => exact Batch.totalMatches_eq_length _

end Pipeline

namespace Service

/-- A service whose snapshot has the sequence answers for each document, whenever the caller cancels. -/
theorem classify_answers {v : Service} {source : Source} {now : Nat} {served : Served}
    (hserved : (v.get source now).1 = .ok served) {sequence : Int} {q : Sequence}
    (hq : served.snapshot.sequence? sequence = some q) (cancelled : Bool)
    (documents : Snapshot → List (Document × Bool)) :
    ∃ b attempts, (v.classify source now sequence cancelled documents).1 = .ok (b, attempts) ∧
      b.Answers v.pipeline served.snapshot sequence cancelled (documents served.snapshot) := by
  obtain ⟨b, attempts, hb, hanswers⟩ := Pipeline.answers_classifyBatch (p := v.pipeline) hq served.degraded
    cancelled (documents served.snapshot)
  refine ⟨b, attempts, ?_, hanswers⟩
  have hclassify : (v.classify source now sequence cancelled documents).1 =
      v.pipeline.classifyBatch served.snapshot served.degraded sequence cancelled
        (documents served.snapshot) := by
    simp only [classify, hserved]
    rfl
  rw [hclassify, hb]

def letterRules : Configuration where
  sequences := [⟨1, "letters", none, [⟨1, false, .ofList [1], none⟩]⟩]
  collections := [⟨1, "letter", none, .and [], .empty⟩]

def letterService : Service where
  pipeline := .builtIn .defaults (fun _ _ => []) {}

/-- Three letters; the caller cancels while the second one is classified. -/
def cutShort : List (Document × Bool) := [(.new "a", false), (.new "b", true), (.new "c", false)]

theorem classify_answers_cutShort :
    ∃ served q, (letterService.get (.fixed (some letterRules)) 0).1 = .ok served ∧
      served.snapshot.sequence? 1 = some q ∧
      ∃ b attempts, (letterService.classify (.fixed (some letterRules)) 0 1 false fun _ => cutShort).1 =
          .ok (b, attempts) ∧
        b.Answers letterService.pipeline served.snapshot 1 false cutShort ∧
        b.cancelled = true ∧ b.results.map DocumentResult.error = [none, none, some .cancelled] ∧
        b.totalMatches = 2 := by
  obtain ⟨served, hserved⟩ : ∃ served, (letterService.get (.fixed (some letterRules)) 0).1 = .ok served :=
    ⟨_, rfl⟩
  obtain ⟨q, hq⟩ : ∃ q, served.snapshot.sequence? 1 = some q := by
    cases hserved
    exact ⟨_, rfl⟩
  obtain ⟨b, attempts, hb, hanswers⟩ := classify_answers hserved hq false fun _ => cutShort
  have hseen : (letterService.classify (.fixed (some letterRules)) 0 1 false fun _ => cutShort).1.toOption.map
      (fun x => (x.1.cancelled, x.1.results.map DocumentResult.error, x.1.totalMatches)) =
        some (true, [none, none, some .cancelled], 2) := by
    decide +kernel
  rw [hb] at hseen
  simp only [Except.toOption, Option.map_some, Option.some.injEq, Prod.mk.injEq] at hseen
  exact ⟨served, q, hserved, hq, b, attempts, hb, hanswers, hseen.1, hseen.2.1, hseen.2.2⟩

end Service

end Filing
