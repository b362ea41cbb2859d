import Filing.Proofs.Store.Loading
import Filing.Service

/-!
# Published snapshots

A store publishes in one case only: what its source loads builds a snapshot with another fingerprint than the
one that is known. The snapshot that was the latest is marked then, and the publication is counted. Nothing else
marks, counts or takes anything away, so after any run, whatever the sources are, exactly those snapshots are
marked that another one has replaced, and each goes on to be what it was.
-/

namespace Filing

/-- What the source loads builds this snapshot, whose fingerprint is not that of the known one. -/
def Source.Renews (source : Source) (known : Option Snapshot) (b : Snapshot) : Prop :=
  ∃ c persisted, source.load (known.map Snapshot.fingerprint) = .ok (.loaded c persisted) ∧
    Snapshot.build c persisted = .ok b ∧ ∀ s, known = some s → s.fingerprint ≠ b.fingerprint

namespace Load
variable {known : Option Snapshot} {l : Load} {s : Snapshot}

theorem snapshot_eq_new (h : l.snapshot known = .ok (s, true)) :
    ∃ c persisted, l = .loaded c persisted ∧ Snapshot.build c persisted = .ok s ∧
      ∀ k, known = some k → k.fingerprint ≠ s.fingerprint := by
  cases l with
  | unchanged => cases known <;> cases h
  | loaded c persisted =>
    cases hb : Snapshot.build c persisted with
    | error e => simp [snapshot, hb] at h
    | ok b =>
      cases known with
      | none =>
        obtain rfl : b = s := by simpa [snapshot, hb] using h
        refine ⟨c, persisted, rfl, hb, fun k hk => ?_⟩
        cases hk
      | some k =>
        by_cases hf : k.fingerprint = b.fingerprint
        · simp [snapshot, hb, hf] at h
        · obtain rfl : b = s := by simpa [snapshot, hb, hf] using h
          refine ⟨c, persisted, rfl, hb, fun k' hk => ?_⟩
          obtain rfl := Option.some.inj hk
          exact hf

theorem snapshot_eq_kept (h : l.snapshot known = .ok (s, false)) : known = some s := by
  cases l with
  | unchanged =>
    cases known with
    | none => cases h
    | some k =>
      obtain rfl : k = s := by simpa [snapshot] using h
      rfl
  | loaded c persisted =>
    cases hb : Snapshot.build c persisted with
    | error e => simp [snapshot, hb] at h
    | ok b =>
      cases known with
      | none => simp [snapshot, hb] at h
      | some k =>
        by_cases hf : k.fingerprint = b.fingerprint
        · obtain rfl : k = s := by simpa [snapshot, hb, hf] using h
          rfl
        · simp [snapshot, hb, hf] at h

end Load

namespace Store
variable {st st' : Store} {b s : Snapshot} {k : Nat}

theorem currentNumber?_eq_some_iff : st.currentNumber? = some k ↔ st.editions.length = k + 1 := by
  unfold currentNumber?
  cases st.editions <;> simp

theorem lt_of_edition? (h : st.edition? k = some s) : k < st.editions.length := by
  have hlt := (List.getElem?_eq_some_iff.mp h).1
  simpa using hlt

theorem edition?_currentNumber (h : st.currentNumber? = some k) : st.edition? k = st.current? := by
  rw [currentNumber?_eq_some_iff] at h
  rw [edition?, current?, List.getElem?_reverse (by omega), List.head?_eq_getElem?]
  congr 1
  omega

theorem edition?_publish (b : Snapshot) (st : Store) (k : Nat) :
    (st.publish b).edition? k = if k = st.editions.length then some b else st.edition? k := by
  have hreverse : (st.publish b).editions.reverse = st.editions.reverse ++ [b] := List.reverse_cons
  rw [edition?, hreverse, edition?]
  by_cases hlt : k < st.editions.length
  · rw [List.getElem?_append_left (by simpa using hlt), if_neg (by omega)]
  · rw [List.getElem?_append_right (by simpa using hlt)]
    by_cases he : k = st.editions.length
    · subst he
      simp
    · rw [if_neg he, List.getElem?_eq_none (by simp; omega), List.getElem?_eq_none (by simp; omega)]

structure SameBooks (st st' : Store) : Prop where
  editions : st'.editions = st.editions
  invalidated : st'.invalidated = st.invalidated
  published : st'.published = st.published

theorem SameBooks.edition? (h : st.SameBooks st') (k : Nat) : st'.edition? k = st.edition? k := by
  rw [Store.edition?, Store.edition?, h.editions]

theorem SameBooks.isInvalidated (h : st.SameBooks st') (k : Nat) : st'.isInvalidated k = st.isInvalidated k := by
  rw [Store.isInvalidated, Store.isInvalidated, h.invalidated]

theorem SameBooks.current? (h : st.SameBooks st') : st'.current? = st.current? := by
  rw [Store.current?, Store.current?, h.editions]

/-- All snapshots but the latest are marked, each has another fingerprint than the one before, and all are
counted. -/
structure Booked (st : Store) : Prop where
  marked : ∀ k, st.isInvalidated k = true ↔ k + 1 < st.editions.length
  renewed : ∀ k s t, st.edition? k = some s → st.edition? (k + 1) = some t → s.fingerprint ≠ t.fingerprint
  counted : st.published = st.editions.length

theorem Booked.start (interval : Option Nat) : Booked { interval } := by
  refine ⟨fun k => ?_, fun k s t hs => ?_, rfl⟩
  · simp [Store.isInvalidated]
  · simp [Store.edition?] at hs

theorem Booked.sameBooks (h : st.Booked) (hsame : st.SameBooks st') : st'.Booked := by
  refine ⟨fun k => ?_, fun k s t hs ht => ?_, ?_⟩
  · rw [hsame.isInvalidated, hsame.editions]
    exact h.marked k
  · rw [hsame.edition?] at hs ht
    exact h.renewed k s t hs ht
  · rw [hsame.published, hsame.editions]
    exact h.counted

theorem Booked.publish (h : st.Booked) (hne : ∀ s, st.current? = some s → s.fingerprint ≠ b.fingerprint) :
    (st.publish b).Booked := by
  refine ⟨fun k => ?_, fun k s t hs ht => ?_, ?_⟩
  · have hmarked := h.marked k
    have hnumber : k ∈ st.currentNumber?.toList ↔ st.editions.length = k + 1 := by
      rw [Option.mem_toList, currentNumber?_eq_some_iff]
    simp only [Store.isInvalidated, List.contains_iff_mem] at hmarked
    simp only [Store.isInvalidated, Store.publish, List.contains_iff_mem, List.mem_append, hnumber, hmarked,
      List.length_cons]
    omega
  · rw [edition?_publish] at hs ht
    by_cases hk : k = st.editions.length
    · rw [if_neg (by omega)] at ht
      have hlt := lt_of_edition? ht
      omega
    · rw [if_neg hk] at hs
      by_cases hlast : k + 1 = st.editions.length
      · rw [if_pos hlast] at ht
        obtain rfl := Option.some.inj ht
        have hnumber : st.currentNumber? = some k := currentNumber?_eq_some_iff.mpr hlast.symm
        rw [edition?_currentNumber hnumber] at hs
        exact hne s hs
      · rw [if_neg hlast] at ht
        exact h.renewed k s t hs ht
  · simp only [Store.publish, h.counted, List.length_cons]

/-- A load publishes a snapshot that it builds with another fingerprint. If it does not, then it serves the
latest snapshot or fails, and leaves the books as they are. -/
theorem reload_spec (source : Source) (now : Nat) (st : Store) :
    (∃ b, source.Renews st.current? b ∧ (st.reload source now).1 = .ok ⟨b, false⟩ ∧
        (st.publish b).SameBooks (st.reload source now).2) ∨
      st.SameBooks (st.reload source now).2 ∧
        ∀ served, (st.reload source now).1 = .ok served → st.current? = some served.snapshot := by
  unfold reload
  cases hload : (source.load (st.current?.map Snapshot.fingerprint)).bind (Load.snapshot st.current?) with
  | ok loaded =>
    obtain ⟨snapshot, new⟩ := loaded
    obtain ⟨l, hl, hsnapshot⟩ := except_bind_eq_ok.mp hload
    cases new with
    | true =>
      left
      obtain ⟨c, persisted, rfl, hb, hne⟩ := Load.snapshot_eq_new hsnapshot
      exact ⟨snapshot, ⟨c, persisted, hl, hb, hne⟩, rfl, rfl, rfl, rfl⟩
    | false =>
      right
      refine ⟨⟨rfl, rfl, rfl⟩, fun served h => ?_⟩
      obtain rfl := Except.ok.inj h
      exact Load.snapshot_eq_kept hsnapshot
  | error e =>
    right
    cases hs : st.current? with
    | some s =>
      refine ⟨⟨rfl, rfl, rfl⟩, fun served h => ?_⟩
      obtain rfl := Except.ok.inj h
      rfl
    | none => exact ⟨⟨rfl, rfl, rfl⟩, fun served h => nomatch h⟩

theorem get_spec (source : Source) (now : Nat) (st : Store) :
    (∃ b, source.Renews st.current? b ∧ (st.get source now).1 = .ok ⟨b, false⟩ ∧
        (st.publish b).SameBooks (st.get source now).2) ∨
      st.SameBooks (st.get source now).2 ∧
        ∀ served, (st.get source now).1 = .ok served → st.current? = some served.snapshot := by
  rcases st.get_cases source now with hget | ⟨s, degraded, hs, hget⟩
  · rw [hget]
    exact st.reload_spec source now
  · right
    constructor
    · rcases hget with hget | hget
      · rw [hget]
        exact ⟨rfl, rfl, rfl⟩
      · rw [hget]
        exact ⟨rfl, rfl, rfl⟩
    · intro served h
      have hanswer : (st.get source now).1 = .ok ⟨s, degraded⟩ := by
        rcases hget with hget | hget <;> rw [hget]
      obtain rfl := Except.ok.inj (hanswer.symm.trans h)
      exact hs

theorem sameBooks_checkForChanges (source : Source) (st : Store) :
    st.SameBooks (st.checkForChanges source).2 := by
  unfold checkForChanges
  split
  · split
    · exact ⟨rfl, rfl, rfl⟩
    · exact ⟨rfl, rfl, rfl⟩
  · exact ⟨rfl, rfl, rfl⟩

end Store

end Filing
