import Filing.CommandLine.Report
import Filing.Proofs.Completeness

/-!
# Problems of policies foretell classifications

Policies are validated twice: all of them when rules are checked, and those that are tried when a document is
classified. Both go by the schema of the type. So every complaint of a classification about details is one of
the problems that are told beforehand, and each of those comes up as soon as its policy is the one to be tried.
-/

namespace Filing

namespace Snapshot

/-- The schema of its type rejects the details of the policy. -/
def Rejects (s : Snapshot) (p : Policy) (e : Error) : Prop :=
  ∃ t, s.policyType? p.typeId = some t ∧ p.validate Schema.validate t = .error e

structure Rejections (s : Snapshot) (rejected : List (Policy × Error)) : Prop where
  ascending : rejected.Pairwise fun x y => x.1.id < y.1.id
  mem_iff : ∀ p e, (p, e) ∈ rejected ↔ p ∈ s.policies.items ∧ s.Rejects p e

def rejection? (s : Snapshot) (p : Policy) : Option (Policy × Error) := do
  let t ← s.policyType? p.typeId
  match p.validate Schema.validate t with
  | .ok () => none
  | .error e => some (p, e)

def rejections (s : Snapshot) : List (Policy × Error) := s.policies.items.filterMap s.rejection?

variable {s : Snapshot} {p q : Policy} {e : Error}

theorem rejection?_eq_some_iff : s.rejection? p = some (q, e) ↔ p = q ∧ s.Rejects q e := by
  unfold rejection? Rejects
  constructor
  · intro h
    obtain ⟨t, ht, h⟩ := Option.bind_eq_some_iff.mp h
    split at h
    · cases h
    · rename_i err herr
      obtain ⟨rfl, rfl⟩ := Prod.mk.inj (Option.some.inj h)
      exact ⟨rfl, t, ht, herr⟩
  · rintro ⟨rfl, t, ht, he⟩
    simp [ht, he]

theorem rejections_spec (s : Snapshot) : s.Rejections s.rejections := by
  constructor
  case ascending =>
    refine List.pairwise_filterMap.mpr (s.policies.ascending.imp fun {p q} hpq x hx y hy => ?_)
    obtain rfl := (rejection?_eq_some_iff.mp hx).1
    obtain rfl := (rejection?_eq_some_iff.mp hy).1
    exact hpq
  case mem_iff =>
    intro p e
    rw [rejections, List.mem_filterMap]
    constructor
    · rintro ⟨q, hq, h⟩
      obtain ⟨rfl, he⟩ := rejection?_eq_some_iff.mp h
      exact ⟨hq, he⟩
    · rintro ⟨hp, he⟩
      exact ⟨p, hp, rejection?_eq_some_iff.mpr ⟨rfl, he⟩⟩

end Snapshot

theorem CommandLine.Report.policyProblems_eq (s : Snapshot) :
    policyProblems s = s.rejections.map fun x => x.2.message := by
  rw [policyProblems, Snapshot.rejections, List.map_filterMap]
  refine List.filterMap_congr fun p _ => ?_
  unfold Snapshot.rejection?
  cases s.policyType? p.typeId with
  | none => rfl
  | some t => cases hv : p.validate Schema.validate t <;> simp [hv]

section
variable {validator : Validator} {s : Snapshot} {t : PolicyType} {p : Policy} {e : Error}

theorem Policy.kind_of_validate (h : p.validate validator t = .error e) : e.kind = "schema_validation" := by
  rw [Application.validate_eq] at h
  split at h
  · cases h
  · obtain rfl := Except.error.inj h
    rfl

theorem Policy.outcome_eq_error_iff (hk : e.kind = "schema_validation") :
    p.outcome validator t = .error e ↔ p.validate validator t = .error e := by
  rw [Application.validate_eq, outcome]
  cases t.rejections validator p.details with
  | cons x xs => simp
  | nil =>
    cases FieldAction.parseDetails p.details with
    | ok actions => simp
    | error fault =>
      simp only [Except.error.injEq, reduceCtorEq, iff_false]
      rintro rfl
      simp [Error.kind] at hk

theorem Visit.diagnostic?_eq_rejection_iff {v : Visit} {g : Diagnostic} (hk : g.error.kind = "schema_validation") :
    v.diagnostic? validator = some g ↔
      ∃ t p, v = .attempt t p ∧ p.validate validator t = .error g.error ∧ g.scope = .policy p.id := by
  obtain ⟨scope, error⟩ := g
  cases v with
  | unbound t =>
    simp only [diagnostic?, Option.some.injEq, Diagnostic.mk.injEq, reduceCtorEq, false_and, exists_false,
      iff_false, not_and]
    rintro - rfl
    simp [Error.kind] at hk
  | attempt t p =>
    simp only [diagnostic?, attempt.injEq]
    constructor
    · intro h
      split at h
      · cases h
      · rename_i e he
        obtain ⟨rfl, rfl⟩ := Diagnostic.mk.inj (Option.some.inj h)
        exact ⟨t, p, ⟨rfl, rfl⟩, (Policy.outcome_eq_error_iff hk).mp he, rfl⟩
    · rintro ⟨t', p', ⟨rfl, rfl⟩, he, rfl⟩
      rw [(Policy.outcome_eq_error_iff hk).mpr he]

namespace Application.Follows
variable {ids : Int → Prop} {d : Document} {visits : List Visit} {a : Application}

theorem rejection_mem_iff (h : Follows s validator ids d visits a) {g : Diagnostic}
    (hk : g.error.kind = "schema_validation") : g ∈ a.diagnostics ↔
      ∃ t p, t.Bound ∧ s.Prevails ids t p ∧ p.validate validator t = .error g.error ∧
        g.scope = .policy p.id := by
  rw [h.diagnostics, List.mem_filterMap]
  constructor
  · rintro ⟨v, hv, hg⟩
    obtain ⟨t, p, rfl, he, hscope⟩ := (Visit.diagnostic?_eq_rejection_iff hk).mp hg
    obtain ⟨hbound, hp⟩ := (h.planned.attempt t p).mp hv
    exact ⟨t, p, hbound, hp, he, hscope⟩
  · rintro ⟨t, p, hbound, hp, he, hscope⟩
    refine ⟨.attempt t p, (h.planned.attempt t p).mpr ⟨hbound, hp⟩, ?_⟩
    exact (Visit.diagnostic?_eq_rejection_iff hk).mpr ⟨t, p, rfl, he, hscope⟩

theorem not_mem_applied (h : Follows s validator ids d visits a) (hp : s.Prevails ids t p)
    (he : p.validate validator t = .error e) : p.id ∉ a.applied := by
  intro happlied
  rw [h.applied] at happlied
  obtain ⟨v, hv, happlied⟩ := List.mem_filterMap.mp happlied
  cases v with
  | unbound u => cases happlied
  | attempt u r =>
    simp only [Visit.applied?] at happlied
    split at happlied
    · rename_i actions hok
      have hr := ((h.planned.attempt u r).mp hv).2
      have hid : r.id = p.id := Option.some.inj happlied
      obtain rfl : r = p := Option.some.inj (by rw [← hr.policy, ← hp.policy, hid])
      obtain rfl : u = t := Option.some.inj (hr.type.symm.trans hp.type)
      rw [(Policy.outcome_eq_error_iff (Policy.kind_of_validate he)).mpr he] at hok
      cases hok
    · cases happlied

end Application.Follows
end

/-- A result whose complaints about details are those that the rejected policies let expect. -/
structure DocumentResult.Foretold (s : Snapshot) (rejected : List (Policy × Error)) (r : DocumentResult) :
    Prop where
  named : ∀ g ∈ r.diagnostics, g.error.kind = "schema_validation" →
    ∃ p e, (p, e) ∈ rejected ∧ g = ⟨.policy p.id, e⟩
  reported : ∀ p e t h, (p, e) ∈ rejected → s.Prevails (s.Attached r.matched) t p →
    Registry.defaults.handlerFor t = .ok h → ⟨.policy p.id, e⟩ ∈ r.diagnostics ∧ p.id ∉ r.applied

namespace Pipeline
variable {s : Snapshot} {q : Sequence} {p : Pipeline} {d : Document}

theorem kind_of_walk (hleaf : p.leaf.answer = Leaf.evaluate) (hs : s.Closed) {g : Diagnostic}
    (hg : g ∈ (p.walk s q d).diagnostics) : g.error.kind = "condition_evaluation" := by
  rw [walk, hleaf] at hg
  obtain ⟨looked, -, hfound⟩ := q.exists_found
    (Collection.evaluate (Leaf.evaluate s d) s p.settings.referenceLimit) s p.settings.tieBreak
  obtain ⟨e, -, k, err, ⟨-, collection, hcollection, hjudge⟩, rfl⟩ := hfound.exists_fails hg
  obtain ⟨fault, rfl, -⟩ := Collection.not_missing_of_evaluate hs (hs.covers_collection hcollection) hjudge
  rfl

theorem follows_applyPolicies (hs : s.Closed) (settings : Settings) (sequence : Int) (d : Document)
    (matched : IdSet) : ∃ visits, Application.Follows s Schema.validate (s.Attached matched) d visits
      ((builtIn .defaults Schema.validate settings).applyPolicies s sequence d matched) :=
  ⟨_, Application.follows_run hs d⟩

theorem foretold_classifyDocument (hs : s.Closed) (settings : Settings) :
    ((builtIn .defaults Schema.validate settings).classifyDocument s q d).1.Foretold s s.rejections := by
  rw [classifyDocument_builtIn]
  have hrejected := s.rejections_spec.mem_iff
  obtain ⟨visits, hrun⟩ := follows_applyPolicies hs settings q.id d
    ((builtIn .defaults Schema.validate settings).walk s q d).matched
  constructor
  case named =>
    intro g hg hk
    rcases List.mem_append.mp hg with hg | hg
    · have hwalk := kind_of_walk rfl hs hg
      simp [hwalk] at hk
    · obtain ⟨t, p, -, hp, he, hscope⟩ := (hrun.rejection_mem_iff hk).mp hg
      have hlisted := (Index.get?_eq_some_iff.mp hp.policy).1
      refine ⟨p, g.error, (hrejected p _).mpr ⟨hlisted, t, hp.type, he⟩, ?_⟩
      rw [← hscope]
  case reported =>
    intro p e t h hmem hp hhandler
    obtain ⟨-, u, hu, he⟩ := (hrejected p e).mp hmem
    obtain rfl : u = t := Option.some.inj (hu.symm.trans hp.type)
    have hbound : u.Bound := by
      by_contra hb
      rw [Registry.defaults_handlerFor, if_neg hb] at hhandler
      cases hhandler
    have hreported := (hrun.rejection_mem_iff (g := ⟨.policy p.id, e⟩) (Policy.kind_of_validate he)).mpr
      ⟨u, p, hbound, hp, he, rfl⟩
    exact ⟨List.mem_append_right _ hreported, hrun.not_mem_applied hp he⟩

end Pipeline

namespace CommandLine.Report

/-- The problems are those of the rejected policies, one for each, ascending. They say beforehand what any
classification with the built-in parts reports about details: nothing else, and each of them once its policy is
attached and prevails. -/
theorem policyProblems_foretell {c : Configuration} {persisted : Option Instant} {s : Snapshot}
    (hs : Snapshot.build c persisted = .ok s) :
    ∃ rejected, s.Rejections rejected ∧ policyProblems s = rejected.map (fun x => x.2.message) ∧
      ∀ id q, s.sequence? id = some q → ∀ (settings : Settings) (d : Document),
        let r := ((Pipeline.builtIn .defaults Schema.validate settings).classifyDocument s q d).1
        r.Foretold s rejected ∧
          (policyProblems s = [] → ∀ g ∈ r.diagnostics, g.error.kind ≠ "schema_validation") := by
  have hclosed : s.Closed := (Snapshot.build_eq_ok_iff.mp hs).closed
  refine ⟨s.rejections, s.rejections_spec, policyProblems_eq s, fun id q _ settings d => ?_⟩
  have hforetold := Pipeline.foretold_classifyDocument hclosed settings (q := q) (d := d)
  refine ⟨hforetold, fun hnone g hg hk => ?_⟩
  obtain ⟨p, e, hmem, -⟩ := hforetold.named g hg hk
  rw [policyProblems_eq, List.map_eq_nil_iff] at hnone
  rw [hnone] at hmem
  cases hmem

def mistypedRules : Configuration where
  sequences := [⟨1, "inbox", none, [⟨1, false, .ofList [1], none⟩]⟩]
  collections := [⟨1, "all", none, .and [], .ofList [4, 3, 2, 1]⟩]
  policies := [
    ⟨2, "outranked", none, 10, 0, .null⟩,
    ⟨1, "mistyped", none, 10, 5, .object [("fieldActions", .string "none")]⟩,
    ⟨3, "unlisted", none, 20, 0, .array []⟩,
    ⟨4, "marked", none, 30, 0, FieldAction.detailsJson [⟨"mark", .set, "seen"⟩]⟩]
  policyTypes := [
    .metadata 10,
    ⟨20, "Other", "Other", none, some PolicyType.fieldActionsSchema, "other_policy"⟩,
    .tag 30]

theorem policyProblems_foretell_mistypedRules :
    ∃ s q rejected, Snapshot.build mistypedRules none = .ok s ∧ s.sequence? 1 = some q ∧
      s.Rejections rejected ∧ policyProblems s = rejected.map (fun x => x.2.message) ∧
      policyProblems s = [
        "policy 1 failed schema validation: \"none\" is not of type \"array\" at '/fieldActions'",
        "policy 2 failed schema validation: null is not of type \"object\" at ''",
        "policy 3 failed schema validation: [] is not of type \"object\" at ''"] ∧
      let r := ((Pipeline.builtIn .defaults Schema.validate {}).classifyDocument s q (.new "a")).1
      r.Foretold s rejected ∧ r.diagnostics.map Diagnostic.scope = [.policy 1, .policyType 20] ∧
        r.applied = [4] := by
  obtain ⟨rejected, hrejected, hproblems, hforetold⟩ :=
    policyProblems_foretell (rfl : Snapshot.build mistypedRules none = .ok _)
  refine ⟨_, _, rejected, rfl, rfl, hrejected, hproblems, ?_, (hforetold 1 _ rfl {} (.new "a")).1, ?_, ?_⟩
  · decide +kernel
  · decide +kernel
  · decide +kernel

end CommandLine.Report
end Filing
