import Filing.Proofs.Classification
import Filing.Proofs.Condition.Failure
import Filing.Proofs.Policy.Stage
import Filing.Proofs.Sequence.Extent

/-!
# Nothing is missing

Whatever rules name, a classification looks up, and passes over what is not there. Building a snapshot looks at
each condition by itself and does not follow references; still a classification with a snapshot that has been
built never comes to anything that is missing. All collections of an entry are judged, all policies of the
matched collections are grouped, and no condition fails for what it names.
-/

namespace Filing

/-- The condition of a collection, or a shared one, or one that references lead to from there. -/
inductive Snapshot.Involves (s : Snapshot) : Condition → Prop where
  | collection {k : Collection} {c : Condition} (hk : k ∈ s.collections.items)
      (h : s.Reaches k.condition c) : Involves s c
  | shared {k : SharedCondition} {c : Condition} (hk : k ∈ s.conditions.items)
      (h : s.Reaches k.condition c) : Involves s c

theorem Collection.not_missing_of_evaluate {s : Snapshot} {d : Document} {limit : Nat} {k : Collection} {e : Error}
    (hs : s.Closed) (hk : s.Covers k.condition) (he : k.evaluate (Leaf.evaluate s d) s limit = .error e) :
    ∃ fault, e = .conditionEvaluation fault ∧ ¬ fault.Missing := by
  unfold evaluate at he
  split at he
  · cases he
  · rename_i err herr
    obtain ⟨fault, rfl, hfault, -⟩ := Condition.failure_of_covered hs hk herr
    obtain rfl := Except.error.inj he
    exact ⟨.inCollection k.id fault, rfl, hfault⟩

namespace Snapshot
variable {s : Snapshot}

theorem Closed.covers_involved (hs : s.Closed) {c : Condition} (h : s.Involves c) : s.Covers c := by
  cases h with
  | collection hk h => exact hs.covers_reached (hs.collectionConditions _ hk) h
  | shared hk h => exact hs.covers_reached (hs.sharedConditions _ hk) h

theorem Closed.ids_of_findings (hs : s.Closed) {q : Sequence} (hq : q ∈ s.sequences.items) {e : Entry}
    (he : e ∈ q.entries) (judge : Collection → Verdict) :
    (e.findings judge s).map Prod.fst = e.collectionIds.items := by
  have hids : ∀ id ∈ e.collectionIds.items, (s.collection? id).map Collection.id = some id := by
    intro id hid
    obtain ⟨k, hk⟩ := Option.isSome_iff_exists.mp ((hs.entries q hq e he).collections id hid)
    rw [collection?, hk, Option.map_some, (Index.get?_eq_some_iff.mp hk).2]
  calc (e.findings judge s).map Prod.fst
      = (e.collections s).map Collection.id := by rw [Entry.findings, List.map_map]; rfl
    _ = e.collectionIds.items.filterMap fun id => (s.collection? id).map Collection.id := by
        rw [Entry.collections, List.map_filterMap]
    _ = e.collectionIds.items.filterMap some := List.filterMap_congr hids
    _ = e.collectionIds.items := List.filterMap_some

theorem Closed.exists_group (hs : s.Closed) {matched : IdSet} {id : Int} (h : s.Attached matched id) :
    ∃ policy type group, s.policy? id = some policy ∧ s.policyType? policy.typeId = some type ∧
      (type.id, group) ∈ s.policyGroups matched ∧ policy ∈ group := by
  obtain ⟨type, policy, rfl, happlicable⟩ := hs.exists_applicable h
  have hmem : policy ∈ s.policiesOf matched := (applicable_iff.mp happlicable).1
  have htype : policy.typeId = type.id := (id_of_policyType? happlicable.type).symm
  refine ⟨policy, type, (s.policiesOf matched).filter fun p => p.typeId == type.id, happlicable.policy,
    happlicable.type, ?_, ?_⟩
  · exact mem_policyGroups.mpr ⟨⟨policy, hmem, htype⟩, rfl⟩
  · exact List.mem_filter.mpr ⟨hmem, beq_iff_eq.mpr htype⟩

end Snapshot

theorem Policy.kind_of_outcome {validator : Validator} {t : PolicyType} {p : Policy} {e : Error}
    (h : p.outcome validator t = .error e) : e.kind ∈ ["policy_details_parse", "schema_validation"] := by
  unfold outcome at h
  split at h
  · cases h
  · obtain rfl := Except.error.inj h
    exact List.mem_cons_self
  · obtain rfl := Except.error.inj h
    exact List.mem_cons_of_mem _ List.mem_cons_self

theorem Visit.kind_of_diagnostic? {validator : Validator} {v : Visit} {g : Diagnostic}
    (h : v.diagnostic? validator = some g) :
    g.error.kind ∈ ["handler_not_found", "policy_details_parse", "schema_validation"] := by
  cases v with
  | unbound t =>
    obtain rfl := Option.some.inj h
    exact List.mem_cons_self
  | attempt t p =>
    simp only [diagnostic?] at h
    split at h
    · cases h
    · rename_i hp
      obtain rfl := Option.some.inj h
      exact List.mem_cons_of_mem _ (Policy.kind_of_outcome hp)

namespace Pipeline

/-- A classification of the document that comes to all that the rules name. -/
structure Complete (p : Pipeline) (s : Snapshot) (q : Sequence) (d : Document) : Prop where
  finished : (p.classifyDocument s q d).1.error = none
  judged : ∀ e ∈ q.entries,
    (e.findings (Collection.evaluate (p.leaf.answer s d) s p.settings.referenceLimit) s).map Prod.fst =
      e.collectionIds.items
  matched : ∀ id ∈ (p.classifyDocument s q d).1.matched.items, ∃ k, s.collection? id = some k ∧
    ∀ policyId ∈ k.policyIds.items, ∃ policy type group,
      s.policy? policyId = some policy ∧ s.policyType? policy.typeId = some type ∧
        (type.id, group) ∈ s.policyGroups (p.classifyDocument s q d).1.matched ∧ policy ∈ group
  conditions : ∀ c, s.Involves c → ∀ limit left e,
    c.evaluateAt (p.leaf.answer s d) s limit left = .error e →
      ∃ fault, e = .conditionEvaluation fault ∧ ¬ fault.Missing
  diagnostics : ∀ g ∈ (p.classifyDocument s q d).1.diagnostics,
    g.error.kind ≠ "config" ∧ g.error.kind ≠ "mixed_policy_type" ∧
      ∀ fault, g.error = .conditionEvaluation fault → ¬ fault.Missing

variable {s : Snapshot} {q : Sequence}

/-- With the built-in evaluator of leaves, the built-in handlers and a snapshot that has been built, each document
of each sequence is classified completely. -/
theorem complete_of_build {c : Configuration} {persisted : Option Instant}
    (hs : Snapshot.build c persisted = .ok s) {id : Int} (hq : s.sequence? id = some q)
    (validator : Validator) (settings : Settings) (d : Document) :
    (builtIn .defaults validator settings).Complete s q d := by
  have hclosed : s.Closed := (Snapshot.build_eq_ok_iff.mp hs).closed
  have hqm : q ∈ s.sequences.items := (Index.get?_eq_some_iff.mp hq).1
  obtain ⟨looked, hlooked, hfound⟩ := q.exists_found
    (Collection.evaluate (Leaf.evaluate s d) s settings.referenceLimit) s settings.tieBreak
  constructor
  case finished => rw [classifyDocument_builtIn]; rfl
  case judged => exact fun e he => hclosed.ids_of_findings hqm he _
  case matched =>
    rw [classifyDocument_builtIn]
    intro k hk
    obtain ⟨e, he, hid, collection, hcollection, -⟩ := (hfound.matched k).mp hk
    exact ⟨collection, hcollection, fun policyId hpolicy =>
      hclosed.exists_group ⟨k, hk, collection, hcollection, hpolicy⟩⟩
  case conditions =>
    intro x hx limit left e he
    obtain ⟨fault, hfault, hmissing, -⟩ := Condition.failure_of_covered hclosed (hclosed.covers_involved hx) he
    exact ⟨fault, hfault, hmissing⟩
  case diagnostics =>
    rw [classifyDocument_builtIn]
    intro g hg
    rcases List.mem_append.mp hg with hg | hg
    · obtain ⟨e, -, k, err, ⟨-, collection, hcollection, hjudge⟩, rfl⟩ := hfound.exists_fails hg
      obtain ⟨fault, rfl, hfault⟩ :=
        Collection.not_missing_of_evaluate hclosed (hclosed.covers_collection hcollection) hjudge
      refine ⟨by simp [Error.kind], by simp [Error.kind], fun fault' h => ?_⟩
      obtain rfl := Error.conditionEvaluation.inj h
      exact hfault
    · rw [applyPolicies, builtIn, (Application.follows_run hclosed d).diagnostics] at hg
      obtain ⟨v, -, hv⟩ := List.mem_filterMap.mp hg
      have hkind := Visit.kind_of_diagnostic? hv
      refine ⟨?_, ?_, fun fault h => ?_⟩
      · intro h
        simp [h] at hkind
      · intro h
        simp [h] at hkind
      · simp [h, Error.kind] at hkind

/-- Chained and circular references, beside policies that cannot be applied. -/
def chainedRules : Configuration where
  sequences := [⟨1, "chained", none, [⟨1, false, .ofList [2, 1], none⟩]⟩]
  collections := [
    ⟨1, "titled", none, .and [.reference 2, .leaf ⟨"title", .lexicon 1 false⟩], .ofList [2, 1]⟩,
    ⟨2, "circular", none, .reference 3, .empty⟩]
  conditions := [
    ⟨1, "untitled", .not (.leaf ⟨"title", .present⟩)⟩,
    ⟨2, "not untitled", .not (.reference 1)⟩,
    ⟨3, "circle", .or [.reference 1, .reference 3]⟩]
  lexicons := [⟨1, "reports", ["report"]⟩]
  policies := [
    ⟨1, "mistyped", none, 10, 0, .object [("fieldActions", .string "none")]⟩,
    ⟨2, "unlisted", none, 20, 0, .null⟩]
  policyTypes := [.metadata 10, ⟨20, "Other", "Other", none, none, "other_policy"⟩]

theorem complete_of_chained :
    ∃ s q, Snapshot.build chainedRules none = .ok s ∧ s.sequence? 1 = some q ∧
      let p := builtIn .defaults Schema.validate { referenceLimit := 2 }
      let d := (Document.new "report").addValue "title" "Report"
      p.Complete s q d ∧ (p.classifyDocument s q d).1.matched = .ofList [1] ∧
        (p.classifyDocument s q d).1.diagnostics.map Diagnostic.scope =
          [.collection 2, .policy 1, .policyType 20] := by
  refine ⟨_, _, rfl, rfl, ?_, ?_, ?_⟩
  · exact complete_of_build (rfl : Snapshot.build chainedRules none = .ok _)
      (rfl : Snapshot.sequence? _ 1 = some _) Schema.validate _ _
  · decide +kernel
  · decide +kernel

end Pipeline

end Filing
