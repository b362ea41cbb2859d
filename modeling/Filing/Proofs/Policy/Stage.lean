import Filing.Proofs.Policy.Visits
import Filing.Schema.Checking

/-!
# The policy stage

Applying the policies of matched collections goes through their visits. Each visit either runs all field
actions of its policy or leaves one diagnostic, so the applied policies, the diagnostics and the document
are read off the visits one by one.
-/

namespace Filing

theorem Registry.defaults_items :
    Registry.defaults.items = [(metadataBinding, Handler.metadata), (tagBinding, Handler.tag)] := rfl

theorem Registry.defaults_handlerFor (t : PolicyType) :
    Registry.defaults.handlerFor t =
      if t.Bound then .ok (Handler.fieldActions t.handler) else .error (.handlerNotFound t.handler) := by
  unfold handlerFor handler?
  by_cases hm : t.handler = metadataBinding
  · have h : Registry.defaults.get? t.handler = some (metadataBinding, Handler.metadata) :=
      Index.get?_eq_some_iff.mpr ⟨by simp [defaults_items], hm.symm⟩
    rw [h, if_pos (.inl hm), hm]
    rfl
  by_cases ht : t.handler = tagBinding
  · have h : Registry.defaults.get? t.handler = some (tagBinding, Handler.tag) :=
      Index.get?_eq_some_iff.mpr ⟨by simp [defaults_items], ht.symm⟩
    rw [h, if_pos (.inr ht), ht]
    rfl
  · have h : Registry.defaults.get? t.handler = none := by
      refine Index.get?_eq_none_iff.mpr fun x hx he => ?_
      rw [defaults_items] at hx
      rcases List.mem_cons.mp hx with rfl | hx
      · exact hm he.symm
      · rw [List.mem_singleton.mp hx] at he
        exact ht he.symm
    rw [h, if_neg fun hb : t.Bound => hb.elim hm ht]
    rfl

namespace Application
variable (validator : Validator) (sequence : Int)

def visit (a : Application) : Visit → Application
  | .unbound t => a.report (.policyType t.id) (.handlerNotFound t.handler)
  | .attempt t p => step validator (Handler.fieldActions t.handler) t sequence a p

variable {validator sequence}

theorem validate_eq {t : PolicyType} {p : Policy} :
    p.validate validator t =
      match t.rejections validator p.details with
      | [] => .ok ()
      | errors => .error (.schemaValidation p.id errors) := by
  unfold Policy.validate PolicyType.rejections
  cases t.definition <;> rfl

variable (validator sequence)

/-- What one visit does: it either applies all actions of its policy, or leaves a diagnostic. -/
theorem visit_spec {a : Application} (ha : a.stopped = false) (v : Visit) :
    (a.visit validator sequence v).stopped = false ∧
      (a.visit validator sequence v).applied = a.applied ++ (v.applied? validator).toList ∧
      (a.visit validator sequence v).diagnostics =
        a.diagnostics ++ (v.diagnostic? validator).toList ∧
      (a.visit validator sequence v).document =
        FieldAction.applyAll a.document (v.actions validator) := by
  cases v with
  | unbound t => exact ⟨ha, by simp [visit, report, Visit.applied?], rfl, rfl⟩
  | attempt t p =>
    simp only [visit, step, ha, Bool.false_eq_true, if_false, validate_eq, Visit.applied?,
      Visit.diagnostic?, Visit.actions, Policy.outcome]
    cases t.rejections validator p.details with
    | cons e es => exact ⟨ha, by simp [report], rfl, rfl⟩
    | nil =>
      simp only [attempt, Handler.fieldActions, Policy.fieldActions]
      cases FieldAction.parseDetails p.details with
      | ok actions => exact ⟨rfl, rfl, by simp, rfl⟩
      | error fault => exact ⟨ha, by simp [report], rfl, rfl⟩

theorem foldl_visit_spec (visits : List Visit) : ∀ {a : Application}, a.stopped = false →
    (visits.foldl (visit validator sequence) a).stopped = false ∧
      (visits.foldl (visit validator sequence) a).applied =
        a.applied ++ visits.filterMap (Visit.applied? validator) ∧
      (visits.foldl (visit validator sequence) a).diagnostics =
        a.diagnostics ++ visits.filterMap (Visit.diagnostic? validator) ∧
      (visits.foldl (visit validator sequence) a).document =
        FieldAction.applyAll a.document (visits.flatMap (Visit.actions validator)) := by
  induction visits with
  | nil => exact fun ha => ⟨ha, by simp, by simp, rfl⟩
  | cons v visits ih =>
    intro a ha
    obtain ⟨hs, happ, hdiag, hdoc⟩ := visit_spec validator sequence ha v
    obtain ⟨hs', happ', hdiag', hdoc'⟩ := ih hs
    refine ⟨hs', ?_, ?_, ?_⟩
    · rw [List.foldl_cons, happ', happ, List.filterMap_cons]
      cases v.applied? validator <;> simp
    · rw [List.foldl_cons, hdiag', hdiag, List.filterMap_cons]
      cases v.diagnostic? validator <;> simp
    · rw [List.foldl_cons, hdoc', hdoc, List.flatMap_cons]
      simp only [FieldAction.applyAll, List.foldl_append]

variable {validator sequence} {s : Snapshot} {matched : IdSet}

theorem applyGroup_eq (hc : s.Closed) {a : Application} (ha : a.stopped = false)
    {group : Int × List Policy} (hg : group ∈ s.policyGroups matched) :
    applyGroup .defaults validator s sequence a group =
      (s.planOfType PolicyType.Bound group).foldl (visit validator sequence) a := by
  obtain ⟨⟨p, hp, hpt⟩, hps⟩ := Snapshot.mem_policyGroups.mp hg
  obtain ⟨t, ht⟩ := hc.exists_type (Snapshot.mem_policiesOf.mp hp).2
  rw [hpt] at ht
  have hone : ∀ q ∈ group.2, q.typeId = group.1 := by
    intro q hq
    rw [hps] at hq
    exact eq_of_beq (List.mem_filter.mp hq).2
  simp only [applyGroup, ha, Bool.false_eq_true, if_false, ht, Registry.defaults_handlerFor,
    Snapshot.planOfType]
  by_cases hb : t.Bound
  · simp only [if_pos hb, Handler.fieldActions, Policy.resolve_of_oneType hone, sortOn_sortOn,
      List.foldl_map, visit]
  · simp only [if_neg hb, List.foldl_cons, List.foldl_nil, visit, Snapshot.id_of_policyType? ht]

theorem run_eq_foldl_visit (hc : s.Closed) (d : Document) :
    run .defaults validator s sequence d matched =
      (s.planFor PolicyType.Bound matched).foldl (visit validator sequence) (start d) := by
  have go : ∀ (groups : List (Int × List Policy)), (∀ g ∈ groups, g ∈ s.policyGroups matched) →
      ∀ {a : Application}, a.stopped = false →
        groups.foldl (applyGroup .defaults validator s sequence) a =
          (groups.flatMap (s.planOfType PolicyType.Bound)).foldl (visit validator sequence) a := by
    intro groups
    induction groups with
    | nil => exact fun _ _ _ => rfl
    | cons g groups ih =>
      intro hg a ha
      rw [List.foldl_cons, List.flatMap_cons, List.foldl_append,
        applyGroup_eq hc ha (hg g List.mem_cons_self)]
      exact ih (fun g' hg' => hg g' (List.mem_cons_of_mem g hg')) (foldl_visit_spec _ _ _ ha).1
  exact go _ (fun _ hg => hg) rfl

end Application

def Snapshot.actionsOf (s : Snapshot) (id : Int) : List FieldAction :=
  match s.policy? id with
  | none => []
  | some p => (FieldAction.parseDetails p.details).toOption.getD []

namespace Application
variable {validator : Validator} {sequence : Int} {s : Snapshot} {matched : IdSet}

/-- An application that does what the visits for the given policies say, and nothing else. -/
structure Follows (s : Snapshot) (validator : Validator) (ids : Int → Prop) (d : Document)
    (visits : List Visit) (a : Application) : Prop where
  planned : s.Plan PolicyType.Bound ids visits
  applied : a.applied = visits.filterMap (Visit.applied? validator)
  diagnostics : a.diagnostics = visits.filterMap (Visit.diagnostic? validator)
  reported : ∀ v ∈ visits,
    a.diagnostics.filter (fun r => r.scope == v.scope) = (v.diagnostic? validator).toList
  document : a.document = FieldAction.applyAll d (a.applied.flatMap s.actionsOf)

theorem actions_eq_actionsOf {ids : Int → Prop} {visits : List Visit} (hv : s.Plan PolicyType.Bound ids visits)
    {v : Visit} (hm : v ∈ visits) :
    v.actions validator = (v.applied? validator).toList.flatMap s.actionsOf := by
  cases v with
  | unbound t => rfl
  | attempt t p =>
    have hp := ((hv.attempt t p).mp hm).2.policy
    simp only [Visit.actions, Visit.applied?, Policy.outcome]
    cases t.rejections validator p.details with
    | cons e es => rfl
    | nil =>
      cases ha : FieldAction.parseDetails p.details with
      | error fault => rfl
      | ok actions => simp [Snapshot.actionsOf, hp, ha, Except.toOption]

theorem follows_run (hc : s.Closed) (d : Document) :
    Follows s validator (s.Attached matched) d (s.planFor PolicyType.Bound matched)
      (run .defaults validator s sequence d matched) := by
  have hv := s.planFor_spec PolicyType.Bound matched
  obtain ⟨-, happ, hdiag, hdoc⟩ :=
    foldl_visit_spec validator sequence (s.planFor PolicyType.Bound matched) (a := start d) rfl
  rw [← run_eq_foldl_visit hc] at happ hdiag hdoc
  refine ⟨hv, happ, hdiag, fun v hm => ?_, ?_⟩
  · rw [hdiag]
    exact hv.reports hm
  · rw [hdoc, happ]
    have hacts : ∀ visits : List Visit, (∀ v ∈ visits, v ∈ s.planFor PolicyType.Bound matched) →
        visits.flatMap (Visit.actions validator) =
          (visits.filterMap (Visit.applied? validator)).flatMap s.actionsOf := by
      intro visits hm
      induction visits with
      | nil => rfl
      | cons v visits ih =>
        rw [List.flatMap_cons, actions_eq_actionsOf hv (hm v List.mem_cons_self),
          ih fun w hw => hm w (List.mem_cons_of_mem v hw), List.filterMap_cons]
        cases v.applied? validator <;> simp
    rw [hacts _ fun _ hm => hm]
    rfl

/-- With the built-in handlers, applying the policies of matched collections leaves no attached policy
out, does what the visits for them say, and depends on the collections only through their policies. -/
theorem run_policy_stage {c : Configuration} {persisted : Option Instant}
    (h : Snapshot.build c persisted = .ok s) (validator : Validator) (sequence : Int) (d : Document)
    (matched : IdSet) :
    (∀ id, s.Attached matched id → ∃ t p, p.id = id ∧ s.Applicable (s.Attached matched) t p) ∧
      (∃ visits, Follows s validator (s.Attached matched) d visits
        (run .defaults validator s sequence d matched)) ∧
      ∀ matched', (∀ id, s.Attached matched' id ↔ s.Attached matched id) →
        run .defaults validator s sequence d matched' =
          run .defaults validator s sequence d matched := by
  have hc : s.Closed := (Snapshot.build_eq_ok_iff.mp h).closed
  refine ⟨fun id ha => hc.exists_applicable ha, ⟨_, follows_run hc d⟩, fun matched' hm => ?_⟩
  have hids : s.Attached matched' = s.Attached matched := funext fun id => propext (hm id)
  have hv := s.planFor_spec PolicyType.Bound matched'
  rw [hids] at hv
  rw [run_eq_foldl_visit hc, run_eq_foldl_visit hc, hv.unique (s.planFor_spec PolicyType.Bound matched)]

def overlapping : Configuration where
  collections := [
    ⟨1, "contracts", none, .and [], .ofList [1, 2, 3, 4]⟩,
    ⟨2, "invoices", none, .and [], .ofList [2, 5]⟩]
  policies := [
    ⟨1, "low", none, 10, 1, FieldAction.detailsJson [⟨"class", .set, "low"⟩]⟩,
    ⟨2, "high", none, 10, 5, FieldAction.detailsJson [⟨"class", .set, "high"⟩]⟩,
    ⟨3, "unlisted", none, 20, 0, .null⟩,
    ⟨4, "mistyped", none, 30, 0, .object [("fieldActions", .string "none")]⟩,
    ⟨5, "late", none, 10, 5, FieldAction.detailsJson [⟨"class", .add, "late"⟩]⟩]
  policyTypes := [.metadata 10, ⟨20, "Other", "Other", none, none, "other_policy"⟩, .tag 30]

theorem run_policy_stage_of_overlapping :
    ∃ s, Snapshot.build overlapping none = .ok s ∧
      (∃ visits, Follows s Schema.validate (s.Attached (.ofList [1, 2])) (.new "a") visits
        (run .defaults Schema.validate s 1 (.new "a") (.ofList [1, 2]))) ∧
      (run .defaults Schema.validate s 1 (.new "a") (.ofList [1, 2])).applied = [2, 5] ∧
      (run .defaults Schema.validate s 1 (.new "a") (.ofList [1, 2])).diagnostics.map Diagnostic.scope =
        [.policyType 20, .policy 4] := by
  obtain ⟨s, hs⟩ : ∃ s, Snapshot.build overlapping none = .ok s := ⟨_, rfl⟩
  refine ⟨s, hs, (run_policy_stage hs Schema.validate 1 (.new "a") (.ofList [1, 2])).2.1, ?_⟩
  cases hs
  decide +kernel

end Application

end Filing
