import Filing.Condition.Leaf
import Filing.Proofs.Sequence.Findings
import Filing.Proofs.Snapshot.Rearranged

/-!
# How far a walk gets and what it finds

A walk looks at the entries in order, up to the first one that is to stop on a match and has a match, or
at all of them. A collection that cannot be judged neither stops the walk nor hides a match beside it. What
the walk finds are the matches and the failures of the entries it has looked at, and nothing else: the
entries after the one that stops it could be any others.
-/

namespace Filing

namespace Entry

def Stops (judge : Collection → Verdict) (s : Snapshot) (e : Entry) : Prop :=
  e.stopOnMatch = true ∧ ∃ id, e.Matches judge s id

variable {judge : Collection → Verdict} {s : Snapshot} {e : Entry}

theorem stops_iff :
    (e.stopOnMatch && !(e.findings judge s).matched.items.isEmpty) = true ↔ e.Stops judge s := by
  rw [Bool.and_eq_true, Bool.not_eq_true', ← Bool.not_eq_true, matched_isEmpty_iff, not_forall_not]
  rfl

end Entry

namespace Walk

section
variable (judge : Collection → Verdict) (s : Snapshot)

/-- The entries up to the first one that stops a walk, or all of them where none does, and the entries
after those. -/
inductive Extent : List Entry → List Entry → List Entry → Prop where
  | all {es : List Entry} (h : ∀ e ∈ es, ¬ e.Stops judge s) : Extent es es []
  | upTo {before after : List Entry} {e : Entry} (hb : ∀ f ∈ before, ¬ f.Stops judge s)
      (he : e.Stops judge s) : Extent (before ++ e :: after) (before ++ [e]) after

/-- What is found by looking at these entries: their matches, their failures in order, and a default that
is one of the matches, if any. -/
structure Found (looked : List Entry) (w : Walk) : Prop where
  matched : ∀ id, id ∈ w.matched.items ↔ ∃ e ∈ looked, e.Matches judge s id
  default : ∀ id, w.default = some id → id ∈ w.matched.items
  diagnostics : ∃ failures, List.Forall₂ (Entry.FailuresAre judge s) looked failures ∧
    w.diagnostics = failures.flatten.map fun (id, err) => ⟨.collection id, err⟩
  entries : w.entries = looked.length

end

variable {judge : Collection → Verdict} {s : Snapshot} {tieBreak : TieBreak}
  {es looked rest : List Entry} {e : Entry} {w : Walk}

theorem exists_extent (judge : Collection → Verdict) (s : Snapshot) (es : List Entry) :
    ∃ looked rest, Extent judge s es looked rest := by
  induction es with
  | nil => exact ⟨[], [], .all fun e he => by cases he⟩
  | cons e es ih =>
    by_cases he : e.Stops judge s
    · have hextent : Extent judge s ([] ++ e :: es) ([] ++ [e]) es := .upTo (fun f hf => by cases hf) he
      exact ⟨[e], es, hextent⟩
    · obtain ⟨looked, rest, hextent⟩ := ih
      cases hextent with
      | all h => exact ⟨e :: es, [], .all (List.forall_mem_cons.mpr ⟨he, h⟩)⟩
      | @upTo before _ f hb hf =>
        exact ⟨e :: before ++ [f], rest, .upTo (List.forall_mem_cons.mpr ⟨he, hb⟩) hf⟩

/-- Where an entry stops the walk, the walk gets as far whatever comes after it. -/
theorem Extent.append (h : Extent judge s es looked rest) (hstop : ∃ e ∈ es, e.Stops judge s)
    (others : List Entry) : Extent judge s (looked ++ others) looked others := by
  cases h with
  | all h =>
    obtain ⟨e, he, hs⟩ := hstop
    exact absurd hs (h e he)
  | upTo hb he =>
    rw [List.append_assoc]
    exact .upTo hb he

def recordAll (judge : Collection → Verdict) (s : Snapshot) (tieBreak : TieBreak) (w : Walk)
    (looked : List Entry) : Walk :=
  looked.foldl (fun w e => w.record tieBreak e (e.findings judge s)) w

theorem through_append (hb : ∀ f ∈ looked, ¬ f.Stops judge s) :
    w.through tieBreak (Entry.findings judge s) (looked ++ es) =
      (recordAll judge s tieBreak w looked).through tieBreak (Entry.findings judge s) es := by
  induction looked generalizing w with
  | nil => rfl
  | cons f before ih =>
    obtain ⟨hf, hbefore⟩ := List.forall_mem_cons.mp hb
    rw [List.cons_append, through, if_neg fun h => hf (Entry.stops_iff.mp h), ih hbefore]
    rfl

theorem Extent.through_eq (h : Extent judge s es looked rest) :
    w.through tieBreak (Entry.findings judge s) es = recordAll judge s tieBreak w looked := by
  cases h with
  | all h =>
    have happend : w.through tieBreak (Entry.findings judge s) (es ++ []) =
        recordAll judge s tieBreak w es := through_append h
    rw [List.append_nil] at happend
    exact happend
  | @upTo before after e hb he =>
    rw [through_append hb, through, if_pos (Entry.stops_iff.mpr he), recordAll, recordAll,
      List.foldl_append]
    rfl

theorem Found.start (judge : Collection → Verdict) (s : Snapshot) : Found judge s [] start := by
  refine ⟨fun id => ?_, fun id h => ?_, ⟨[], .nil, rfl⟩, rfl⟩
  · simp [Walk.start, Index.empty]
  · cases h

/-- Recording one more entry finds what this entry has, beside what was found before. -/
theorem Found.record (h : Found judge s looked w) (tieBreak : TieBreak) (e : Entry) :
    Found judge s (looked ++ [e]) (w.record tieBreak e (e.findings judge s)) := by
  have hunion (id : Int) : id ∈ (w.record tieBreak e (e.findings judge s)).matched.items ↔
      id ∈ w.matched.items ∨ e.Matches judge s id := by
    rw [← Entry.mem_matched]
    exact Index.mem_union
  constructor
  case matched =>
    intro id
    rw [hunion, h.matched]
    simp [or_and_right, exists_or]
  case default =>
    intro id hid
    rw [hunion]
    simp only [Walk.record] at hid
    split at hid
    · exact .inl (h.default id hid)
    · exact .inr (Entry.mem_matched.mp (Entry.mem_of_default? hid))
  case diagnostics =>
    obtain ⟨failures, hfailures, hdiagnostics⟩ := h.diagnostics
    refine ⟨failures ++ [(e.findings judge s).failures], ?_, ?_⟩
    · exact List.rel_append hfailures (.cons Entry.failuresAre .nil)
    · rw [Walk.record, hdiagnostics, Findings.diagnostics_eq]
      simp
  case entries => rw [Walk.record, h.entries, List.length_append, List.length_singleton]

theorem Found.recordAll (h : Found judge s looked w) (es : List Entry) :
    Found judge s (looked ++ es) (recordAll judge s tieBreak w es) := by
  induction es generalizing looked w with
  | nil =>
    rw [List.append_nil]
    exact h
  | cons e es ih =>
    have hnext := ih (h.record tieBreak e)
    rw [List.append_assoc] at hnext
    exact hnext

theorem Extent.subset (h : Extent judge s es looked rest) : looked ⊆ es := by
  cases h with
  | all => exact fun e he => he
  | @upTo before _ e =>
    have happend : before ++ [e] ⊆ before ++ [e] ++ rest := List.subset_append_left _ _
    rw [List.append_assoc] at happend
    exact happend

theorem exists_fails_of_mem_flatten {failures : List (List (Int × Error))} {id : Int} {err : Error}
    (h : List.Forall₂ (Entry.FailuresAre judge s) looked failures) (hm : (id, err) ∈ failures.flatten) :
    ∃ e ∈ looked, e.Fails judge s id err := by
  induction h with
  | nil => cases hm
  | @cons e _ _ _ hfailures _ ih =>
    rw [List.flatten_cons, List.mem_append] at hm
    rcases hm with hm | hm
    · exact ⟨e, List.mem_cons_self, (hfailures.mem_iff id err).mp hm⟩
    · obtain ⟨f, hf, hfails⟩ := ih hm
      exact ⟨f, List.mem_cons_of_mem e hf, hfails⟩

theorem Found.exists_fails (h : Found judge s looked w) {g : Diagnostic} (hg : g ∈ w.diagnostics) :
    ∃ e ∈ looked, ∃ id err, e.Fails judge s id err ∧ g = ⟨.collection id, err⟩ := by
  obtain ⟨failures, hfailures, hdiagnostics⟩ := h.diagnostics
  rw [hdiagnostics] at hg
  obtain ⟨⟨id, err⟩, hm, rfl⟩ := List.mem_map.mp hg
  obtain ⟨e, he, hfails⟩ := exists_fails_of_mem_flatten hfailures hm
  exact ⟨e, he, id, err, hfails, rfl⟩

end Walk

namespace Sequence

theorem exists_found (judge : Collection → Verdict) (s : Snapshot) (tieBreak : TieBreak) (q : Sequence) :
    ∃ looked ⊆ q.entries, Walk.Found judge s looked (q.walkWith tieBreak judge s) := by
  obtain ⟨looked, rest, hextent⟩ := Walk.exists_extent judge s q.entries
  refine ⟨looked, hextent.subset, ?_⟩
  rw [walkWith, hextent.through_eq]
  exact (Walk.Found.start judge s).recordAll looked

/-- The walk of a sequence looks at its entries in ascending order, those with the same order number as they
were written, up to the first one that stops it. It finds what these entries have, and the entries after
them are of no account. -/
theorem walk_of_built {c : Configuration} {persisted : Option Instant} {s : Snapshot}
    (hs : Snapshot.build c persisted = .ok s) {q : Sequence} (hq : q ∈ c.sequences) :
    ∃ r, s.sequence? q.id = some r ∧ q.Rearranged r ∧
      (r.entries.Pairwise fun e f => e.order ≤ f.order) ∧
      ∀ (tieBreak : TieBreak) (leaf : Leaf → Verdict) (limit : Nat), ∃ looked rest,
        Walk.Extent (Collection.evaluate leaf s limit) s r.entries looked rest ∧
        Walk.Found (Collection.evaluate leaf s limit) s looked (r.walk tieBreak leaf limit s) ∧
        ((∃ e ∈ r.entries, e.Stops (Collection.evaluate leaf s limit) s) → ∀ others,
          { r with entries := looked ++ others }.walk tieBreak leaf limit s =
            r.walk tieBreak leaf limit s) := by
  refine ⟨Snapshot.arrange q, Snapshot.sequence?_of_built hs hq, q.rearranged_arrange,
    q.entries_arrange_ascending, fun tieBreak leaf limit => ?_⟩
  obtain ⟨looked, rest, hextent⟩ := Walk.exists_extent (Collection.evaluate leaf s limit) s
    (Snapshot.arrange q).entries
  have hwalk : (Snapshot.arrange q).walk tieBreak leaf limit s =
      Walk.recordAll (Collection.evaluate leaf s limit) s tieBreak .start looked := hextent.through_eq
  refine ⟨looked, rest, hextent, ?_, fun hstop others => ?_⟩
  · rw [hwalk]
    exact (Walk.Found.start _ s).recordAll looked
  · rw [hwalk]
    exact (hextent.append hstop others).through_eq

def siftingRules : Configuration where
  sequences := [⟨1, "sifting", none, [⟨2, true, .ofList [3, 2], some 2⟩, ⟨3, false, .ofList [1], none⟩,
    ⟨1, true, .ofList [4], none⟩]⟩]
  collections := [
    ⟨1, "any", none, .and [], .empty⟩,
    ⟨2, "titled", none, .leaf ⟨"title", .present⟩, .empty⟩,
    ⟨3, "circular", none, .reference 9, .empty⟩,
    ⟨4, "not circular", none, .not (.reference 9), .empty⟩]
  conditions := [⟨9, "circle", .reference 9⟩]

theorem walk_of_sifting :
    ∃ s r, Snapshot.build siftingRules none = .ok s ∧ s.sequence? 1 = some r ∧
      ∃ d : Document, ∃ looked rest,
        Walk.Extent (Collection.evaluate (Leaf.evaluate s d) s 2) s r.entries looked rest ∧
        Walk.Found (Collection.evaluate (Leaf.evaluate s d) s 2) s looked
          (r.walk .lowestId (Leaf.evaluate s d) 2 s) ∧
        r.walk .lowestId (Leaf.evaluate s d) 2 s =
          ⟨.ofList [2], some 2, [⟨.collection 4, .conditionEvaluation (.inCollection 4 (.tooDeep 9 2))⟩,
            ⟨.collection 3, .conditionEvaluation (.inCollection 3 (.tooDeep 9 2))⟩], 2⟩ ∧
        ∀ others, { r with entries := looked ++ others }.walk .lowestId (Leaf.evaluate s d) 2 s =
          r.walk .lowestId (Leaf.evaluate s d) 2 s := by
  refine ⟨_, _, rfl, rfl, (Document.new "report").addValue "title" "Report", ?_⟩
  obtain ⟨r, hr, _, _, hwalk⟩ := walk_of_built (rfl : Snapshot.build siftingRules none = .ok _)
    (List.mem_singleton.mpr rfl)
  obtain rfl := Option.some.inj hr
  obtain ⟨looked, rest, hextent, hfound, hothers⟩ := hwalk .lowestId (Leaf.evaluate _ _) 2
  refine ⟨looked, rest, hextent, hfound, ?_, ?_⟩
  · decide
  · refine hothers ⟨⟨2, true, .ofList [3, 2], some 2⟩, by decide, Entry.stops_iff.mp ?_⟩
    decide

end Sequence

end Filing
