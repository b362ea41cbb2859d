import Filing.Proofs.Classification

/-!
# The order of the rules

In which order the lists of a configuration are written says nothing, because all of their items have
identifiers. Of the entries of a sequence, only those with the same order number are told apart by their
places. So rules that are written in another order have the same fingerprint, build the same or fail with
the same error, and classify every batch of documents the same.
-/

namespace Filing

/-- The same sequence with its entries written in another order. Those with the same order number still
follow one another as before, and so the entries of one are those of the other. -/
structure Sequence.Rearranged (q r : Sequence) : Prop where
  id : q.id = r.id
  name : q.name = r.name
  description : q.description = r.description
  entries : ∀ order : Int,
    q.entries.filter (fun e => e.order = order) = r.entries.filter (fun e => e.order = order)

structure Configuration.Rearranged (c d : Configuration) : Prop where
  sequences : ∃ qs, c.sequences.Perm qs ∧ List.Forall₂ Sequence.Rearranged qs d.sequences
  collections : c.collections.Perm d.collections
  conditions : c.conditions.Perm d.conditions
  fieldLabels : c.fieldLabels.Perm d.fieldLabels
  lexicons : c.lexicons.Perm d.lexicons
  policies : c.policies.Perm d.policies
  policyTypes : c.policyTypes.Perm d.policyTypes

theorem Sequence.rearranged_arrange (q : Sequence) : q.Rearranged (Snapshot.arrange q) :=
  ⟨rfl, rfl, rfl, fun order => (filter_sortOn order q.entries).symm⟩

theorem Sequence.entries_arrange_ascending (q : Sequence) :
    (Snapshot.arrange q).entries.Pairwise fun e f => e.order ≤ f.order :=
  (sortOn_ordered Entry.order q.entries).imp Int.not_lt.mp

theorem Sequence.Rearranged.arrange_eq {q r : Sequence} (h : q.Rearranged r) :
    Snapshot.arrange q = Snapshot.arrange r := by
  have hentries : sortOn Entry.order q.entries = sortOn Entry.order r.entries :=
    sortOn_eq_of_same_ties h.entries
  rw [Snapshot.arrange, Snapshot.arrange, h.id, h.name, h.description, hentries]

theorem Sequence.map_arrange_of_rearranged {qs rs : List Sequence}
    (h : List.Forall₂ Sequence.Rearranged qs rs) : qs.map Snapshot.arrange = rs.map Snapshot.arrange := by
  induction h with
  | nil => rfl
  | cons hq _ ih => rw [List.map_cons, List.map_cons, hq.arrange_eq, ih]

namespace Configuration
variable {c d : Configuration}

theorem Rearranged.sequences_eq (h : c.Rearranged d) (hn : (c.sequences.map Sequence.id).Nodup) :
    (sortOn Sequence.id c.sequences).map Snapshot.arrange =
      (sortOn Sequence.id d.sequences).map Snapshot.arrange := by
  obtain ⟨qs, hperm, hqs⟩ := h.sequences
  have hid : ∀ q : Sequence, (Snapshot.arrange q).id = q.id := fun _ => rfl
  calc (sortOn Sequence.id c.sequences).map Snapshot.arrange
      = (sortOn Sequence.id qs).map Snapshot.arrange := by rw [sortOn_eq_of_perm hn hperm]
    _ = sortOn Sequence.id (qs.map Snapshot.arrange) := (sortOn_map hid qs).symm
    _ = sortOn Sequence.id (d.sequences.map Snapshot.arrange) := by
      rw [Sequence.map_arrange_of_rearranged hqs]
    _ = (sortOn Sequence.id d.sequences).map Snapshot.arrange := sortOn_map hid d.sequences

theorem Rearranged.arranged_eq (hc : c.Distinct) (h : c.Rearranged d) : c.arranged = d.arranged := by
  simp only [arranged, h.sequences_eq hc.sequences,
    sortOn_eq_of_perm hc.collections h.collections,
    sortOn_eq_of_perm hc.conditions h.conditions,
    sortOn_eq_of_perm hc.fieldLabels h.fieldLabels,
    sortOn_eq_of_perm hc.lexicons h.lexicons,
    sortOn_eq_of_perm hc.policies h.policies,
    sortOn_eq_of_perm hc.policyTypes h.policyTypes]

/-- Nobody can tell two configurations apart that have the same rules in another order. -/
theorem Rearranged.indistinguishable (hc : c.Distinct) (h : c.Rearranged d) (persisted : Option Instant) :
    c.fingerprint = d.fingerprint ∧
      ((∃ e, Snapshot.build c persisted = .error e ∧ Snapshot.build d persisted = .error e) ∨
        ∃ s t, Snapshot.build c persisted = .ok s ∧ Snapshot.build d persisted = .ok t ∧
          ∀ p : Pipeline, p.leaf.Undated → ∀ degraded sequence cancelled documents,
            p.classifyBatch s degraded sequence cancelled documents =
              p.classifyBatch t degraded sequence cancelled documents) := by
  have harranged := h.arranged_eq hc
  refine ⟨fingerprint_eq_of_arranged harranged, ?_⟩
  rw [Snapshot.build_eq_of_arranged hc harranged persisted]
  cases Snapshot.build d persisted with
  | error e => exact .inl ⟨e, rfl, rfl⟩
  | ok t =>
    refine .inr ⟨t.dated c.lastModified, t, rfl, rfl, fun p hp degraded sequence cancelled documents => ?_⟩
    exact Pipeline.classifyBatch_dated hp degraded sequence cancelled documents

/-- Rules of two sequences. A document with a title matches both entries of the inbox with order number 2,
and which of them comes first decides where the walk stops. -/
def morningRules : Configuration where
  lastModified := some ⟨20000, 28800, 0⟩
  sequences := [
    ⟨1, "inbox", none, [⟨2, true, .ofList [2, 1], none⟩, ⟨1, false, .ofList [3], some 3⟩,
      ⟨2, true, .ofList [3], none⟩]⟩,
    ⟨2, "archive", some "by size", [⟨1, false, .ofList [1], none⟩]⟩]
  collections := [
    ⟨1, "titled", none, .leaf ⟨"heading", .present⟩, .ofList [5]⟩,
    ⟨2, "small", none, .leaf ⟨"size", .number .less .zero⟩, .ofList [5, 6]⟩,
    ⟨3, "old", none, .reference 4, .empty⟩]
  conditions := [⟨4, "shared", .leaf ⟨"title", .present⟩⟩, ⟨9, "spare", .reference 4⟩]
  fieldLabels := [⟨"heading", ["title", "subject"]⟩, ⟨"body", ["text"]⟩]
  policies := [
    ⟨5, "mark", none, 1, 0, .object [("fieldActions", .array [])]⟩,
    ⟨6, "label", none, 2, 3, .object []⟩]
  policyTypes := [.metadata 1, .tag 2]

def eveningRules : Configuration where
  lastModified := some ⟨20000, 72000, 0⟩
  sequences := [
    ⟨2, "archive", some "by size", [⟨1, false, .ofList [1], none⟩]⟩,
    ⟨1, "inbox", none, [⟨2, true, .ofList [1, 2], none⟩, ⟨2, true, .ofList [3], none⟩,
      ⟨1, false, .ofList [3], some 3⟩]⟩]
  collections := [
    ⟨3, "old", none, .reference 4, .empty⟩,
    ⟨1, "titled", none, .leaf ⟨"heading", .present⟩, .ofList [5]⟩,
    ⟨2, "small", none, .leaf ⟨"size", .number .less .zero⟩, .ofList [6, 5]⟩]
  conditions := [⟨9, "spare", .reference 4⟩, ⟨4, "shared", .leaf ⟨"title", .present⟩⟩]
  fieldLabels := [⟨"body", ["text"]⟩, ⟨"heading", ["title", "subject"]⟩]
  policies := [
    ⟨6, "label", none, 2, 3, .object []⟩,
    ⟨5, "mark", none, 1, 0, .object [("fieldActions", .array [])]⟩]
  policyTypes := [.tag 2, .metadata 1]

theorem eveningRules_rearranged : morningRules.Rearranged eveningRules := by
  have hinbox : Sequence.Rearranged morningRules.sequences[0] eveningRules.sequences[1] := by
    refine ⟨rfl, rfl, rfl, fun order => ?_⟩
    by_cases h1 : 1 = order
    · subst h1
      decide
    · by_cases h2 : 2 = order
      · subst h2
        decide
      · simp [morningRules, eveningRules, h1, h2]
  have harchive : Sequence.Rearranged morningRules.sequences[1] eveningRules.sequences[0] :=
    ⟨rfl, rfl, rfl, fun _ => rfl⟩
  exact ⟨⟨_, .swap _ _ _, .cons harchive (.cons hinbox .nil)⟩, by decide, by decide, by decide, by decide,
    by decide, by decide⟩

theorem indistinguishable_morning_evening :
    morningRules.Distinct ∧ morningRules.Rearranged eveningRules ∧
      morningRules.fingerprint = eveningRules.fingerprint ∧
      ∃ s t, Snapshot.build morningRules none = .ok s ∧ Snapshot.build eveningRules none = .ok t ∧
        ∀ registry validator settings degraded sequence cancelled documents,
          (Pipeline.builtIn registry validator settings).classifyBatch s degraded sequence cancelled documents =
            (Pipeline.builtIn registry validator settings).classifyBatch t degraded sequence cancelled
              documents := by
  have hc : morningRules.Distinct := by
    constructor <;> decide
  have hbuilds : ∃ s, Snapshot.build morningRules none = .ok s := ⟨_, rfl⟩
  obtain ⟨hfingerprint, hbuild⟩ := Rearranged.indistinguishable hc eveningRules_rearranged none
  refine ⟨hc, eveningRules_rearranged, hfingerprint, ?_⟩
  rcases hbuild with ⟨e, he, _⟩ | ⟨s, t, hs, ht, hsame⟩
  · obtain ⟨s, hs⟩ := hbuilds
    rw [hs] at he
    cases he
  · refine ⟨s, t, hs, ht, ?_⟩
    intro registry validator settings
    exact hsame _ Pipeline.builtIn_undated

end Configuration

end Filing
