import Filing.Policy.Application
import Filing.Proofs.Policy.Resolution
import Filing.Proofs.Snapshot.Build

/-!
# Which policies are tried

What happens to the policies of matched collections is a list of visits: types in ascending order, and in each type
with a handler the policies of its highest priority in ascending order. `Snapshot.Plan` says so of a list, and only
one list is of that kind: which policies are attached determines it, whatever the collections are that they are
attached to.
-/

namespace Filing

def PolicyType.Bound (t : PolicyType) : Prop := t.handler = metadataBinding ∨ t.handler = tagBinding

instance (t : PolicyType) : Decidable t.Bound := inferInstanceAs (Decidable (_ ∨ _))

def PolicyType.rejections (validator : Validator) (t : PolicyType) (details : Json) : List String :=
  match t.definition with
  | none => []
  | some schema => validator details schema

/-- What comes of trying a policy: its field actions, or else what the schema finds, or else why the
details are no field actions. -/
def Policy.outcome (validator : Validator) (t : PolicyType) (p : Policy) :
    Except Error (List FieldAction) :=
  match t.rejections validator p.details, FieldAction.parseDetails p.details with
  | [], .ok actions => .ok actions
  | [], .error fault => .error (.policyDetails p.id fault)
  | errors, _ => .error (.schemaValidation p.id errors)

/-- A step of the policy stage: a type is passed over for want of a handler, or a policy is tried. -/
inductive Visit where
  | unbound (type : PolicyType)
  | attempt (type : PolicyType) (policy : Policy)

namespace Visit

def type : Visit → PolicyType
  | .unbound t => t
  | .attempt t _ => t

def Before : Visit → Visit → Prop
  | .attempt t p, .attempt u q => t.id < u.id ∨ t.id = u.id ∧ p.id < q.id
  | v, w => v.type.id < w.type.id

variable (validator : Validator)

def applied? : Visit → Option Int
  | .unbound _ => none
  | .attempt t p =>
    match p.outcome validator t with
    | .ok _ => some p.id
    | .error _ => none

def diagnostic? : Visit → Option Diagnostic
  | .unbound t => some ⟨.policyType t.id, .handlerNotFound t.handler⟩
  | .attempt t p =>
    match p.outcome validator t with
    | .ok _ => none
    | .error e => some ⟨.policy p.id, e⟩

def actions : Visit → List FieldAction
  | .unbound _ => []
  | .attempt t p =>
    match p.outcome validator t with
    | .ok actions => actions
    | .error _ => []

def scope : Visit → Scope
  | .unbound t => .policyType t.id
  | .attempt _ p => .policy p.id

theorem scope_of_diagnostic? {validator : Validator} {v : Visit} {r : Diagnostic}
    (h : v.diagnostic? validator = some r) : r.scope = v.scope := by
  cases v with
  | unbound t =>
    obtain rfl := Option.some.inj h
    rfl
  | attempt t p =>
    simp only [diagnostic?] at h
    split at h
    · cases h
    · obtain rfl := Option.some.inj h
      rfl

theorem filter_reports_cons {validator : Validator} {v : Visit} {visits : List Visit} {c : Scope} :
    ((v :: visits).filterMap (diagnostic? validator)).filter (fun r => r.scope == c) =
      (if v.scope = c then (v.diagnostic? validator).toList else []) ++
        (visits.filterMap (diagnostic? validator)).filter fun r => r.scope == c := by
  rw [List.filterMap_cons]
  cases hd : v.diagnostic? validator with
  | none => simp
  | some r =>
    have he := scope_of_diagnostic? hd
    by_cases hs : v.scope = c <;> simp [he, hs]

theorem filter_reports_eq_nil {validator : Validator} {visits : List Visit} {c : Scope}
    (h : ∀ v ∈ visits, v.scope ≠ c) :
    (visits.filterMap (diagnostic? validator)).filter (fun r => r.scope == c) = [] := by
  refine List.filter_eq_nil_iff.mpr fun r hr he => ?_
  obtain ⟨v, hv, hd⟩ := List.mem_filterMap.mp hr
  exact h v hv ((scope_of_diagnostic? hd).symm.trans (eq_of_beq he))

theorem before_of_type_lt {v w : Visit} (h : v.type.id < w.type.id) : v.Before w := by
  cases v <;> cases w <;> first | exact h | exact .inl h

theorem Before.asymm {v w : Visit} (h : v.Before w) : ¬ w.Before v := by
  cases v <;> cases w <;> simp only [Before, type] at h ⊢ <;> omega

end Visit

namespace Snapshot

def Attached (s : Snapshot) (matched : IdSet) (id : Int) : Prop :=
  ∃ k ∈ matched.items, ∃ c, s.collection? k = some c ∧ id ∈ c.policyIds.items

structure Applicable (s : Snapshot) (ids : Int → Prop) (t : PolicyType) (p : Policy) : Prop where
  listed : ids p.id
  policy : s.policy? p.id = some p
  type : s.policyType? p.typeId = some t

/-- One of the given policies that no other one of its type exceeds in priority. -/
structure Prevails (s : Snapshot) (ids : Int → Prop) (t : PolicyType) (p : Policy) : Prop extends
    Applicable s ids t p where
  top : ∀ q, s.Applicable ids t q → q.priority ≤ p.priority

/-- The visits for the given policies, where the types that are bound have a handler. -/
structure Plan (s : Snapshot) (bound : PolicyType → Prop) (ids : Int → Prop) (visits : List Visit) : Prop where
  ascending : visits.Pairwise Visit.Before
  unbound : ∀ t, .unbound t ∈ visits ↔ ¬ bound t ∧ ∃ p, s.Applicable ids t p
  attempt : ∀ t p, .attempt t p ∈ visits ↔ bound t ∧ s.Prevails ids t p

theorem Plan.unique {s : Snapshot} {bound : PolicyType → Prop} {ids : Int → Prop} {vs ws : List Visit}
    (hv : s.Plan bound ids vs) (hw : s.Plan bound ids ws) : vs = ws := by
  have nodup {us : List Visit} (hu : us.Pairwise Visit.Before) : us.Nodup := by
    refine hu.imp fun {a b} hab he => ?_
    subst he
    exact hab.asymm hab
  have hp : vs.Perm ws := by
    refine (List.perm_ext_iff_of_nodup (nodup hv.ascending) (nodup hw.ascending)).mpr fun v => ?_
    cases v with
    | unbound t => rw [hv.unbound, hw.unbound]
    | attempt t p => rw [hv.attempt, hw.attempt]
  exact hp.eq_of_pairwise (fun a b _ _ hab hba => absurd hba hab.asymm) hv.ascending hw.ascending

theorem Plan.scopes_ne {s : Snapshot} {bound : PolicyType → Prop} {ids : Int → Prop} {visits : List Visit}
    (hv : s.Plan bound ids visits) : visits.Pairwise fun v w => v.scope ≠ w.scope := by
  refine hv.ascending.imp_of_mem fun {v w} hvm hwm hb he => ?_
  cases v <;> cases w <;> simp only [Visit.scope, Scope.policy.injEq, Scope.policyType.injEq,
    reduceCtorEq] at he
  · simp only [Visit.Before, Visit.type] at hb
    omega
  · rename_i t p u q
    have hp := ((hv.attempt t p).mp hvm).2
    have hq := ((hv.attempt u q).mp hwm).2
    have hpq : p = q := Option.some.inj (by rw [← hp.policy, ← hq.policy, he])
    subst hpq
    have htu : t = u := Option.some.inj (hp.type.symm.trans hq.type)
    subst htu
    simp only [Visit.Before] at hb
    omega

theorem Plan.reports {s : Snapshot} {bound : PolicyType → Prop} {ids : Int → Prop} {visits : List Visit}
    {validator : Validator} (hv : s.Plan bound ids visits) {v : Visit} (hm : v ∈ visits) :
    (visits.filterMap (Visit.diagnostic? validator)).filter (fun r => r.scope == v.scope) =
      (v.diagnostic? validator).toList := by
  have hn := hv.scopes_ne
  clear hv
  induction visits with
  | nil => cases hm
  | cons w ws ih =>
    have ⟨hw, hws⟩ := List.pairwise_cons.mp hn
    rw [Visit.filter_reports_cons]
    rcases List.mem_cons.mp hm with rfl | hm
    · rw [if_pos rfl, Visit.filter_reports_eq_nil fun u hu he => hw u hu he.symm, List.append_nil]
    · rw [if_neg (hw v hm), List.nil_append, ih hm hws]

theorem mem_firstOccurrences {ids : List Int} {id : Int} :
    ∀ seen : List Int, id ∈ firstOccurrences seen ids ↔ id ∈ ids ∧ id ∉ seen := by
  induction ids with
  | nil => simp [firstOccurrences]
  | cons x ids ih =>
    intro seen
    simp only [firstOccurrences, List.contains_eq_mem, decide_eq_true_eq]
    split
    · rename_i hx
      rw [ih, List.mem_cons]
      constructor
      · exact fun ⟨h, hs⟩ => ⟨.inr h, hs⟩
      · rintro ⟨rfl | h, hs⟩
        · exact absurd hx hs
        · exact ⟨h, hs⟩
    · rename_i hx
      rw [List.mem_cons, ih, List.mem_cons, List.mem_cons]
      by_cases he : id = x
      · simp [he, hx]
      · simp [he]

theorem firstOccurrences_nodup {ids : List Int} : ∀ seen : List Int, (firstOccurrences seen ids).Nodup := by
  induction ids with
  | nil => exact fun _ => .nil
  | cons x ids ih =>
    intro seen
    simp only [firstOccurrences]
    split
    · exact ih seen
    · refine List.nodup_cons.mpr ⟨fun h => ?_, ih _⟩
      exact ((mem_firstOccurrences _).mp h).2 List.mem_cons_self

variable {s : Snapshot} {matched : IdSet}

theorem id_of_policy? {id : Int} {p : Policy} (h : s.policy? id = some p) : p.id = id :=
  (Index.get?_eq_some_iff.mp h).2

theorem id_of_policyType? {id : Int} {t : PolicyType} (h : s.policyType? id = some t) : t.id = id :=
  (Index.get?_eq_some_iff.mp h).2

theorem mem_policiesOf {p : Policy} :
    p ∈ s.policiesOf matched ↔ s.Attached matched p.id ∧ s.policy? p.id = some p := by
  simp only [policiesOf, List.mem_filterMap, mem_firstOccurrences, List.not_mem_nil, not_false_eq_true,
    and_true, List.mem_flatMap]
  constructor
  · rintro ⟨id, ⟨c, ⟨k, hk, hc⟩, hid⟩, hp⟩
    have he := id_of_policy? hp
    subst he
    exact ⟨⟨k, hk, c, hc, hid⟩, hp⟩
  · rintro ⟨⟨k, hk, c, hc, hid⟩, hp⟩
    exact ⟨p.id, ⟨c, ⟨k, hk, hc⟩, hid⟩, hp⟩

theorem policiesOf_ids_nodup : ((s.policiesOf matched).map Policy.id).Nodup := by
  rw [policiesOf, List.Nodup, List.pairwise_map, List.pairwise_filterMap]
  refine (firstOccurrences_nodup []).imp fun {a b} hne p hp q hq he => hne ?_
  rw [← id_of_policy? hp, ← id_of_policy? hq, he]

section Plan
variable (bound : PolicyType → Prop) [DecidablePred bound]

def planOfType (s : Snapshot) (group : Int × List Policy) : List Visit :=
  match s.policyType? group.1 with
  | none => []
  | some t =>
    if bound t then (sortOn Policy.id (Policy.prevailing group.2)).map (.attempt t) else [.unbound t]

def planFor (s : Snapshot) (matched : IdSet) : List Visit :=
  (s.policyGroups matched).flatMap (s.planOfType bound)

variable {bound}

theorem type_of_mem_planOfType {group : Int × List Policy} {v : Visit} (h : v ∈ s.planOfType bound group) :
    v.type.id = group.1 := by
  unfold planOfType at h
  split at h
  · cases h
  · rename_i t ht
    have he := id_of_policyType? ht
    split at h
    · obtain ⟨p, _, rfl⟩ := List.mem_map.mp h
      exact he
    · rw [List.mem_singleton.mp h]
      exact he

theorem planOfType_ascending {group : Int × List Policy} (hn : (group.2.map Policy.id).Nodup) :
    (s.planOfType bound group).Pairwise Visit.Before := by
  unfold planOfType
  split
  · exact .nil
  · rename_i t _
    split
    · have hn' : ((Policy.prevailing group.2).map Policy.id).Nodup :=
        hn.sublist (List.filter_sublist.map Policy.id)
      exact List.pairwise_map.mpr ((sortOn_ascending hn').imp fun h => .inr ⟨rfl, h⟩)
    · exact List.pairwise_singleton _ _

theorem unbound_mem_planOfType {group : Int × List Policy} {t : PolicyType} :
    .unbound t ∈ s.planOfType bound group ↔ s.policyType? group.1 = some t ∧ ¬ bound t := by
  unfold planOfType
  cases s.policyType? group.1 with
  | none => simp
  | some u =>
    by_cases hb : bound u
    · simp only [if_pos hb, List.mem_map, reduceCtorEq, and_false, exists_false, Option.some.injEq,
        false_iff]
      rintro ⟨rfl, hn⟩
      exact hn hb
    · simp only [if_neg hb, List.mem_singleton, Visit.unbound.injEq, Option.some.injEq]
      constructor
      · rintro rfl
        exact ⟨rfl, hb⟩
      · exact fun h => h.1.symm

theorem attempt_mem_planOfType {group : Int × List Policy} {t : PolicyType} {p : Policy} :
    .attempt t p ∈ s.planOfType bound group ↔
      s.policyType? group.1 = some t ∧ bound t ∧ p ∈ Policy.prevailing group.2 := by
  unfold planOfType
  cases s.policyType? group.1 with
  | none => simp
  | some u =>
    by_cases hb : bound u
    · simp only [if_pos hb, List.mem_map, mem_sortOn, Visit.attempt.injEq, Option.some.injEq]
      constructor
      · rintro ⟨q, hq, rfl, rfl⟩
        exact ⟨rfl, hb, hq⟩
      · rintro ⟨rfl, _, hp⟩
        exact ⟨p, hp, rfl, rfl⟩
    · simp only [if_neg hb, List.mem_singleton, reduceCtorEq, Option.some.injEq, false_iff]
      rintro ⟨rfl, h, _⟩
      exact hb h

end Plan

theorem mem_policyGroups {group : Int × List Policy} :
    group ∈ s.policyGroups matched ↔
      (∃ p ∈ s.policiesOf matched, p.typeId = group.1) ∧
        group.2 = (s.policiesOf matched).filter fun p => p.typeId == group.1 := by
  simp only [policyGroups, List.mem_map, Index.mem_ofList]
  constructor
  · rintro ⟨t, h, rfl⟩
    exact ⟨h, rfl⟩
  · rintro ⟨h, he⟩
    exact ⟨group.1, h, by rw [← he]⟩

theorem applicable_iff {t : PolicyType} {p : Policy} :
    s.Applicable (s.Attached matched) t p ↔
      p ∈ s.policiesOf matched ∧ s.policyType? p.typeId = some t := by
  rw [mem_policiesOf]
  exact ⟨fun h => ⟨⟨h.listed, h.policy⟩, h.type⟩, fun ⟨⟨h, hp⟩, ht⟩ => ⟨h, hp, ht⟩⟩

theorem prevails_iff {t : PolicyType} {p : Policy} :
    s.Prevails (s.Attached matched) t p ↔
      s.policyType? p.typeId = some t ∧
        p ∈ Policy.prevailing ((s.policiesOf matched).filter fun q => q.typeId == p.typeId) := by
  simp only [Policy.mem_prevailing, List.mem_filter, beq_iff_eq]
  constructor
  · intro h
    have ⟨hp, ht⟩ := applicable_iff.mp h.toApplicable
    refine ⟨ht, ⟨hp, trivial⟩, fun q hq => h.top q (applicable_iff.mpr ⟨hq.1, ?_⟩)⟩
    rw [hq.2, ht]
  · rintro ⟨ht, ⟨hp, -⟩, htop⟩
    refine ⟨applicable_iff.mpr ⟨hp, ht⟩, fun q hq => htop q ?_⟩
    have ⟨hq, hqt⟩ := applicable_iff.mp hq
    exact ⟨hq, (id_of_policyType? hqt).symm.trans (id_of_policyType? ht)⟩

theorem planFor_spec (s : Snapshot) (bound : PolicyType → Prop) [DecidablePred bound] (matched : IdSet) :
    s.Plan bound (s.Attached matched) (s.planFor bound matched) := by
  refine ⟨?_, fun t => ?_, fun t p => ?_⟩
  · refine List.pairwise_flatMap.mpr ⟨fun group hg => ?_, ?_⟩
    · refine planOfType_ascending ?_
      rw [(mem_policyGroups.mp hg).2]
      exact policiesOf_ids_nodup.sublist (List.filter_sublist.map Policy.id)
    · refine List.pairwise_map.mpr ((Index.ascending _).imp fun {t u} htu v hv w hw => ?_)
      apply Visit.before_of_type_lt
      rw [type_of_mem_planOfType hv, type_of_mem_planOfType hw]
      exact htu
  · simp only [planFor, List.mem_flatMap, mem_policyGroups, unbound_mem_planOfType, applicable_iff]
    constructor
    · rintro ⟨group, ⟨⟨p, hp, he⟩, _⟩, ht, hb⟩
      exact ⟨hb, p, hp, he ▸ ht⟩
    · rintro ⟨hb, p, hp, ht⟩
      exact ⟨(p.typeId, (s.policiesOf matched).filter fun q => q.typeId == p.typeId),
        ⟨⟨p, hp, rfl⟩, rfl⟩, ht, hb⟩
  · simp only [planFor, List.mem_flatMap, mem_policyGroups, attempt_mem_planOfType, prevails_iff]
    constructor
    · rintro ⟨group, ⟨_, hps⟩, ht, hb, hp⟩
      rw [hps] at hp
      have he : p.typeId = group.1 := by
        have hm := (Policy.mem_prevailing.mp hp).1
        exact eq_of_beq (List.mem_filter.mp hm).2
      rw [he]
      exact ⟨hb, ht, hp⟩
    · rintro ⟨hb, ht, hp⟩
      have hm := (List.mem_filter.mp (Policy.mem_prevailing.mp hp).1).1
      exact ⟨(p.typeId, (s.policiesOf matched).filter fun q => q.typeId == p.typeId),
        ⟨⟨p, hm, rfl⟩, rfl⟩, ht, hb, hp⟩

theorem Closed.exists_type (h : s.Closed) {id : Int} {p : Policy} (hp : s.policy? id = some p) :
    ∃ t, s.policyType? p.typeId = some t :=
  Option.isSome_iff_exists.mp (h.policyTypes p (Index.get?_eq_some_iff.mp hp).1)

theorem Closed.exists_applicable (h : s.Closed) {id : Int} (ha : s.Attached matched id) :
    ∃ t p, p.id = id ∧ s.Applicable (s.Attached matched) t p := by
  have ⟨k, hk, c, hc, hid⟩ := ha
  have hcm := (Index.get?_eq_some_iff.mp hc).1
  obtain ⟨p, hp⟩ := Option.isSome_iff_exists.mp (h.collectionPolicies c hcm id hid)
  obtain ⟨t, ht⟩ := h.exists_type hp
  have he := id_of_policy? hp
  subst he
  exact ⟨t, p, rfl, ha, hp, ht⟩

end Snapshot

end Filing
