import Filing.Condition.Memory
import Filing.Proofs.Index

/-!
# Leaves are the same from memory

An honest memory keeps what making ready gives: under each pattern what it compiles to, and under a fingerprint the
terms of all known snapshots that have it. Whatever it is asked for, it stays honest and says the same as one that
keeps nothing.
-/

namespace Filing

variable {known : List Snapshot} {m : LeafMemory} {s t : Snapshot}

def Snapshot.Told (known : List Snapshot) : Prop :=
  ∀ s ∈ known, ∀ t ∈ known, s.fingerprint = t.fingerprint → s.lexicons = t.lexicons

theorem Snapshot.terms_congr (h : s.lexicons = t.lexicons) : s.terms = t.terms := by
  funext id
  rw [terms, terms, lexicon?, lexicon?, h]

namespace LeafMemory

structure Honest (known : List Snapshot) (m : LeafMemory) : Prop where
  patterns : ∀ e ∈ m.patterns.items, Pattern.ready e.1 = .ok e.2
  terms : ∀ e ∈ m.terms, ∀ s ∈ known, s.fingerprint = e.1.1 → s.terms e.1.2 = .ok e.2

theorem honest_empty (known : List Snapshot) : Honest known {} := ⟨nofun, nofun⟩

theorem Honest.pattern (h : m.Honest known) (p : String) :
    (m.pattern p).1 = Pattern.ready p ∧ (m.pattern p).2.Honest known := by
  unfold LeafMemory.pattern
  cases hget : m.patterns.get? p with
  | some e =>
    obtain ⟨hmem, rfl⟩ := Index.get?_eq_some_iff.mp hget
    exact ⟨(h.patterns e hmem).symm, h⟩
  | none =>
    cases hready : Pattern.ready p with
    | error fault => exact ⟨rfl, h⟩
    | ok pattern =>
      refine ⟨rfl, { h with patterns := fun e he => ?_ }⟩
      rcases Index.mem_insert_iff.mp he with rfl | ⟨he, -⟩
      · exact hready
      · exact h.patterns e he

theorem Honest.termsOf (h : m.Honest known) (htold : Snapshot.Told known) (hs : s ∈ known) (id : Int) :
    (m.termsOf s id).1 = s.terms id ∧ (m.termsOf s id).2.Honest known := by
  unfold LeafMemory.termsOf
  cases hkept : m.terms.lookup (s.fingerprint, id) with
  | some terms => exact ⟨(h.terms _ (mem_of_lookup hkept) s hs rfl).symm, h⟩
  | none =>
    cases hready : s.terms id with
    | error fault => exact ⟨rfl, h⟩
    | ok terms =>
      refine ⟨rfl, { h with terms := fun e he t ht hfingerprint => ?_ }⟩
      rcases List.mem_cons.mp he with rfl | he
      · rw [Snapshot.terms_congr (htold t ht s hs hfingerprint)]
        exact hready
      · exact h.terms e (List.mem_filter.mp he).1 t ht hfingerprint

theorem Honest.prepare (h : m.Honest known) (htold : Snapshot.Told known) (hs : s ∈ known) (test : Test) :
    (m.prepare s test).Honest known := by
  cases test with
  | regex p => exact (h.pattern p).2
  | lexicon id _ => exact (h.termsOf htold hs id).2
  | _ => exact h

theorem Honest.evaluate (h : m.Honest known) (htold : Snapshot.Told known) (hs : s ∈ known) (d : Document)
    (l : Leaf) : (m.evaluate s d l).1 = l.evaluate s d ∧ (m.evaluate s d l).2.Honest known := by
  have hpattern : (fun p => (m.pattern p).1) = Pattern.ready := funext fun p => (h.pattern p).1
  have hterms : (fun id => (m.termsOf s id).1) = s.terms := funext fun id => (h.termsOf htold hs id).1
  refine ⟨?_, h.prepare htold hs l.test⟩
  rw [LeafMemory.evaluate, hpattern, hterms, Leaf.evaluate]

end LeafMemory

end Filing
