import Filing.Proofs.Index
import Filing.Sequence.Walk

/-!
# What an entry finds

The matched collections of an entry are those of its identifiers whose collection the snapshot has and
whose condition holds. Those that cannot be judged leave a diagnostic each, by ascending identifier.
`default?` is the one default that the rule for nominations and tie-breaks allows.
-/

namespace Filing

theorem Snapshot.id_of_collection? {s : Snapshot} {id : Int} {c : Collection}
    (h : s.collection? id = some c) : c.id = id :=
  (Index.get?_eq_some_iff.mp h).2

namespace Findings

variable {findings : Findings} {id : Int}

theorem mem_matched : id ∈ findings.matched.items ↔ (id, .ok true) ∈ findings := by
  rw [matched, Index.mem_ofList, List.mem_filterMap]
  constructor
  · rintro ⟨⟨i, v⟩, hm, h⟩
    match v, h with
    | .ok true, h => exact (Option.some.inj h) ▸ hm
  · intro hm
    exact ⟨(id, .ok true), hm, rfl⟩

def failures (findings : Findings) : List (Int × Error) :=
  findings.filterMap fun (id, v) =>
    match v with
    | .error err => some (id, err)
    | .ok _ => none

theorem mem_failures {err : Error} : (id, err) ∈ findings.failures ↔ (id, .error err) ∈ findings := by
  rw [failures, List.mem_filterMap]
  constructor
  · rintro ⟨⟨i, v⟩, hm, h⟩
    match v, h with
    | .error _, h =>
      obtain ⟨rfl, rfl⟩ := Prod.mk.inj (Option.some.inj h)
      exact hm
  · intro hm
    exact ⟨(id, .error err), hm, rfl⟩

theorem diagnostics_eq (findings : Findings) :
    findings.diagnostics = findings.failures.map fun (id, err) => ⟨.collection id, err⟩ := by
  rw [diagnostics, failures, List.map_filterMap]
  apply List.filterMap_congr
  rintro ⟨id, v⟩ _
  cases v <;> rfl

end Findings

namespace Entry

def Matches (judge : Collection → Verdict) (s : Snapshot) (e : Entry) (id : Int) : Prop :=
  id ∈ e.collectionIds.items ∧ ∃ c, s.collection? id = some c ∧ judge c = .ok true

variable {judge : Collection → Verdict} {s : Snapshot} {e : Entry}

theorem mem_collections {c : Collection} :
    c ∈ e.collections s ↔ c.id ∈ e.collectionIds.items ∧ s.collection? c.id = some c := by
  rw [collections, List.mem_filterMap]
  constructor
  · rintro ⟨id, hid, h⟩
    have he := Snapshot.id_of_collection? h
    exact he ▸ ⟨hid, h⟩
  · rintro ⟨hid, h⟩
    exact ⟨c.id, hid, h⟩

theorem mem_findings {id : Int} {v : Verdict} : (id, v) ∈ e.findings judge s ↔
    id ∈ e.collectionIds.items ∧ ∃ c, s.collection? id = some c ∧ judge c = v := by
  rw [findings, List.mem_map]
  constructor
  · rintro ⟨c, hc, h⟩
    obtain ⟨hid, hs⟩ := mem_collections.mp hc
    obtain ⟨rfl, hj⟩ := Prod.mk.inj h
    exact ⟨hid, c, hs, hj⟩
  · rintro ⟨hid, c, hs, hj⟩
    have he := Snapshot.id_of_collection? hs
    subst he
    exact ⟨c, mem_collections.mpr ⟨hid, hs⟩, by rw [hj]⟩

theorem mem_matched {id : Int} : id ∈ (e.findings judge s).matched.items ↔ e.Matches judge s id := by
  rw [Findings.mem_matched]
  exact mem_findings

theorem matched_isEmpty_iff :
    (e.findings judge s).matched.items.isEmpty = true ↔ ∀ id, ¬ e.Matches judge s id := by
  rw [List.isEmpty_iff, List.eq_nil_iff_forall_not_mem]
  simp only [mem_matched]

def Fails (judge : Collection → Verdict) (s : Snapshot) (e : Entry) (id : Int) (err : Error) : Prop :=
  id ∈ e.collectionIds.items ∧ ∃ c, s.collection? id = some c ∧ judge c = .error err

structure FailuresAre (judge : Collection → Verdict) (s : Snapshot) (e : Entry)
    (failures : List (Int × Error)) : Prop where
  mem_iff : ∀ id err, (id, err) ∈ failures ↔ e.Fails judge s id err
  ascending : failures.Pairwise fun f g => f.1 < g.1

theorem collections_ascending : (e.collections s).Pairwise fun c d => c.id < d.id := by
  unfold collections
  refine e.collectionIds.ascending.filterMap s.collection? fun a b hab c hc d hd => ?_
  rw [Snapshot.id_of_collection? hc, Snapshot.id_of_collection? hd]
  exact hab

theorem failuresAre : e.FailuresAre judge s (e.findings judge s).failures := by
  constructor
  · intro id err
    rw [Findings.mem_failures]
    exact mem_findings
  · have hfindings : (e.findings judge s).Pairwise fun f g => f.1 < g.1 :=
      List.pairwise_map.mpr collections_ascending
    refine hfindings.filterMap _ ?_
    rintro ⟨i, v⟩ ⟨j, w⟩ hij f hf g hg
    match v, hf, w, hg with
    | .error _, hf, .error _, hg =>
      rw [← Option.some.inj hf, ← Option.some.inj hg]
      exact hij

def NoNominee (matched : Int → Prop) (e : Entry) : Prop :=
  ∀ id, e.defaultCollectionId = some id → ¬ matched id

/-- The default of an entry whose matched collections are these: its nominated collection if that is
one of them, and otherwise the one that the tie-break takes. -/
def DefaultIs (tieBreak : TieBreak) (matched : Int → Prop) (e : Entry) (default : Option Int) : Prop :=
  (∃ id, e.defaultCollectionId = some id ∧ matched id ∧ default = some id) ∨
    e.NoNominee matched ∧
      match tieBreak with
      | .lowestId => ∃ id, default = some id ∧ matched id ∧ ∀ x, matched x → id ≤ x
      | .highestId => ∃ id, default = some id ∧ matched id ∧ ∀ x, matched x → x ≤ id
      | .none => default = Option.none

end Entry

theorem TieBreak.pick_eq_iff (tieBreak : TieBreak) {matched : IdSet} (hm : matched.items ≠ [])
    (default : Option Int) :
    tieBreak.pick matched = default ↔
      match tieBreak with
      | .lowestId => ∃ id, default = some id ∧ id ∈ matched.items ∧ ∀ x ∈ matched.items, id ≤ x
      | .highestId => ∃ id, default = some id ∧ id ∈ matched.items ∧ ∀ x ∈ matched.items, x ≤ id
      | .none => default = Option.none := by
  cases tieBreak with
  | lowestId =>
    cases default with
    | none => simp [pick, hm]
    | some id => simp [pick, IdSet.head?_eq_some_iff]
  | highestId =>
    cases default with
    | none => simp [pick, hm]
    | some id => simp [pick, IdSet.getLast?_eq_some_iff]
  | none => exact eq_comm

theorem TieBreak.mem_of_pick {tieBreak : TieBreak} {matched : IdSet} {id : Int}
    (h : tieBreak.pick matched = some id) : id ∈ matched.items := by
  cases tieBreak with
  | lowestId => exact (IdSet.head?_eq_some_iff.mp h).1
  | highestId => exact (IdSet.getLast?_eq_some_iff.mp h).1
  | none => cases h

namespace Entry
variable {judge : Collection → Verdict} {s : Snapshot} {e : Entry} {tieBreak : TieBreak}

theorem default?_of_nominee {matched : IdSet} {id : Int} (h : e.defaultCollectionId = some id)
    (hm : id ∈ matched.items) : e.default? tieBreak matched = some id := by
  simp only [default?, h, Index.contains_iff_mem.mpr hm, if_true]

theorem default?_of_noNominee {matched : IdSet} (h : e.NoNominee (· ∈ matched.items)) :
    e.default? tieBreak matched = tieBreak.pick matched := by
  unfold default?
  split
  · rename_i id hid
    exact if_neg fun hc => h id hid (Index.contains_iff_mem.mp hc)
  · rfl

theorem nominee_or_noNominee (matched : IdSet) (e : Entry) :
    (∃ id, e.defaultCollectionId = some id ∧ id ∈ matched.items) ∨ e.NoNominee (· ∈ matched.items) := by
  by_cases h : ∃ id, e.defaultCollectionId = some id ∧ id ∈ matched.items
  · exact .inl h
  · exact .inr fun id hid hm => h ⟨id, hid, hm⟩

theorem mem_of_default? {matched : IdSet} {id : Int} (h : e.default? tieBreak matched = some id) :
    id ∈ matched.items := by
  rcases nominee_or_noNominee matched e with ⟨nominee, hnominee, hin⟩ | hnone
  · rw [default?_of_nominee hnominee hin] at h
    exact Option.some.inj h ▸ hin
  · rw [default?_of_noNominee hnone] at h
    exact TieBreak.mem_of_pick h

theorem default?_eq_iff {matched : IdSet} (hm : matched.items ≠ []) (default : Option Int) :
    e.default? tieBreak matched = default ↔ e.DefaultIs tieBreak (· ∈ matched.items) default := by
  rcases nominee_or_noNominee matched e with ⟨id, hid, hin⟩ | hn
  · rw [default?_of_nominee hid hin]
    constructor
    · intro h
      exact .inl ⟨id, hid, hin, h.symm⟩
    · rintro (⟨id', hid', _, h⟩ | ⟨hn, _⟩)
      · rw [hid] at hid'
        rw [h, Option.some.inj hid']
      · exact absurd hin (hn id hid)
  · rw [default?_of_noNominee hn, TieBreak.pick_eq_iff tieBreak hm]
    constructor
    · exact fun h => .inr ⟨hn, h⟩
    · rintro (⟨id, hid, hin, _⟩ | ⟨_, h⟩)
      · exact absurd hin (hn id hid)
      · exact h

theorem default?_eq_iff_matches (h : ∃ id, e.Matches judge s id) (default : Option Int) :
    e.default? tieBreak (e.findings judge s).matched = default ↔
      e.DefaultIs tieBreak (e.Matches judge s) default := by
  have hm : (e.findings judge s).matched.items ≠ [] := by
    obtain ⟨id, hid⟩ := h
    exact List.ne_nil_of_mem (mem_matched.mpr hid)
  rw [default?_eq_iff hm]
  simp only [mem_matched]

theorem default?_eq_none_iff (h : ∃ id, e.Matches judge s id) :
    e.default? tieBreak (e.findings judge s).matched = none ↔
      tieBreak = .none ∧ e.NoNominee (e.Matches judge s) := by
  rw [default?_eq_iff_matches h]
  unfold DefaultIs
  constructor
  · rintro (⟨id, _, _, h⟩ | ⟨hn, h⟩)
    · cases h
    · cases tieBreak with
      | lowestId => obtain ⟨_, h, _⟩ := h; cases h
      | highestId => obtain ⟨_, h, _⟩ := h; cases h
      | none => exact ⟨rfl, hn⟩
  · rintro ⟨rfl, hn⟩
    exact .inr ⟨hn, rfl⟩

end Entry

end Filing
