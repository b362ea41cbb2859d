import Filing.Proofs.Policy.Stopping
import Filing.Schema.Checking

/-!
# What a stop cuts off

Policies come in an order, by their types and then by their identifiers. Two snapshots are the same up to a policy
if they have different policies after it only, and those still have the same identifiers, types and priorities.
Both plan the same visits up to that policy. So if its handler stops the application, the two applications are one
and the same.
-/

namespace Filing

namespace Snapshot

/-- Every policy after `p` may be another one with the same identifier, type and priority. -/
structure SameUpTo (s : Snapshot) (p : Policy) (s' : Snapshot) : Prop where
  collections : s'.collections = s.collections
  policyTypes : s'.policyTypes = s.policyTypes
  absent : ∀ id, s.policy? id = none → s'.policy? id = none
  present : ∀ q, s.policy? q.id = some q → ∃ q', s'.policy? q.id = some q' ∧ q'.typeId = q.typeId ∧
    q'.priority = q.priority ∧ (¬ p.Before q → q' = q)

def standIn (s : Snapshot) (q : Policy) : Policy := (s.policy? q.id).getD q

theorem standIn_id (s : Snapshot) (q : Policy) : (s.standIn q).id = q.id := by
  unfold standIn
  cases h : s.policy? q.id with
  | none => rfl
  | some q' => exact id_of_policy? h

end Snapshot

def Visit.standIn (s : Snapshot) : Visit → Visit
  | .unbound t => .unbound t
  | .attempt t q => .attempt t (s.standIn q)

theorem Visit.standIn_before_iff {s : Snapshot} {v w : Visit} :
    (v.standIn s).Before (w.standIn s) ↔ v.Before w := by
  cases v <;> cases w <;> simp only [Visit.standIn, Visit.Before, Visit.type, Snapshot.standIn_id]

namespace Snapshot

theorem Plan.type_eq {s : Snapshot} {bound : PolicyType → Prop} {ids : Int → Prop} {visits : List Visit}
    (h : s.Plan bound ids visits) {t : PolicyType} {q : Policy} (hq : .attempt t q ∈ visits) : q.typeId = t.id :=
  (id_of_policyType? ((h.attempt t q).mp hq).2.type).symm

namespace SameUpTo
variable {s s' : Snapshot} {p : Policy} {ids : Int → Prop} {t : PolicyType} (h : s.SameUpTo p s')
include h

theorem policyType?_eq (id : Int) : s'.policyType? id = s.policyType? id := by
  unfold policyType?
  rw [h.policyTypes]

theorem attached_eq (matched : IdSet) : s'.Attached matched = s.Attached matched := by
  unfold Attached collection?
  rw [h.collections]

theorem standIn_spec {q : Policy} (hq : s.policy? q.id = some q) :
    s'.policy? q.id = some (s'.standIn q) ∧ (s'.standIn q).typeId = q.typeId ∧
      (s'.standIn q).priority = q.priority ∧ (¬ p.Before q → s'.standIn q = q) := by
  obtain ⟨q', hq', hrest⟩ := h.present q hq
  have he : s'.standIn q = q' := by
    unfold standIn
    rw [hq', Option.getD_some]
  rw [he]
  exact ⟨hq', hrest⟩

theorem exists_standIn {q' : Policy} (hq' : s'.policy? q'.id = some q') :
    ∃ q, s.policy? q.id = some q ∧ s'.standIn q = q' := by
  cases hq : s.policy? q'.id with
  | none => exact absurd hq' (by simp [h.absent _ hq])
  | some q =>
    have hid := id_of_policy? hq
    rw [← hid] at hq hq'
    exact ⟨q, hq, Option.some.inj ((h.standIn_spec hq).1.symm.trans hq')⟩

theorem applicable_standIn_iff {q : Policy} (hq : s.policy? q.id = some q) :
    s'.Applicable ids t (s'.standIn q) ↔ s.Applicable ids t q := by
  obtain ⟨hpolicy, htype, -, -⟩ := h.standIn_spec hq
  constructor
  · rintro ⟨hlisted, -, ht⟩
    rw [standIn_id] at hlisted
    rw [htype, h.policyType?_eq] at ht
    exact ⟨hlisted, hq, ht⟩
  · rintro ⟨hlisted, -, ht⟩
    refine ⟨by rwa [standIn_id], by rwa [standIn_id], ?_⟩
    rwa [htype, h.policyType?_eq]

theorem prevails_standIn_iff {q : Policy} (hq : s.policy? q.id = some q) :
    s'.Prevails ids t (s'.standIn q) ↔ s.Prevails ids t q := by
  have hpriority {r : Policy} (hr : s.policy? r.id = some r) := (h.standIn_spec hr).2.2.1
  constructor
  · intro hp
    refine ⟨(h.applicable_standIn_iff hq).mp hp.toApplicable, fun r hr => ?_⟩
    have htop := hp.top (s'.standIn r) ((h.applicable_standIn_iff hr.policy).mpr hr)
    rwa [hpriority hq, hpriority hr.policy] at htop
  · intro hp
    refine ⟨(h.applicable_standIn_iff hq).mpr hp.toApplicable, fun r' hr' => ?_⟩
    obtain ⟨r, hr, rfl⟩ := h.exists_standIn hr'.policy
    rw [hpriority hq, hpriority hr]
    exact hp.top r ((h.applicable_standIn_iff hr).mp hr')

/-- The other snapshot plans the same visits, to the policies that stand in. -/
theorem plan {bound : PolicyType → Prop} {visits : List Visit} (hv : s.Plan bound ids visits) :
    s'.Plan bound ids (visits.map (Visit.standIn s')) where
  ascending := List.pairwise_map.mpr (hv.ascending.imp Visit.standIn_before_iff.mpr)
  unbound t := by
    have hsome : (∃ q', s'.Applicable ids t q') ↔ ∃ q, s.Applicable ids t q := by
      constructor
      · rintro ⟨q', hq'⟩
        obtain ⟨q, hq, rfl⟩ := h.exists_standIn hq'.policy
        exact ⟨q, (h.applicable_standIn_iff hq).mp hq'⟩
      · rintro ⟨q, hq⟩
        exact ⟨s'.standIn q, (h.applicable_standIn_iff hq.policy).mpr hq⟩
    rw [hsome, ← hv.unbound t, List.mem_map]
    constructor
    · rintro ⟨v, hm, he⟩
      cases v with
      | unbound u => rwa [← Visit.unbound.inj he]
      | attempt u q => cases he
    · exact fun hm => ⟨.unbound t, hm, rfl⟩
  attempt t q' := by
    rw [List.mem_map]
    constructor
    · rintro ⟨v, hm, he⟩
      cases v with
      | unbound u => cases he
      | attempt u q =>
        obtain ⟨rfl, rfl⟩ := Visit.attempt.inj he
        obtain ⟨hb, hq⟩ := (hv.attempt u q).mp hm
        exact ⟨hb, (h.prevails_standIn_iff hq.policy).mpr hq⟩
    · rintro ⟨hb, hq'⟩
      obtain ⟨q, hq, rfl⟩ := h.exists_standIn hq'.policy
      exact ⟨.attempt t q, (hv.attempt t q).mpr ⟨hb, (h.prevails_standIn_iff hq).mp hq'⟩, rfl⟩

theorem map_standIn {bound : PolicyType → Prop} {before after : List Visit}
    (hv : s.Plan bound ids (before ++ .attempt t p :: after)) :
    (before ++ Visit.attempt t p :: after).map (Visit.standIn s') =
      before ++ .attempt t p :: after.map (Visit.standIn s') := by
  have hascending := (List.pairwise_append.mp hv.ascending).2.2
  have hp : .attempt t p ∈ before ++ Visit.attempt t p :: after := by simp
  have hsame {u : PolicyType} {q : Policy} (hq : .attempt u q ∈ before ++ Visit.attempt t p :: after)
      (hnot : ¬ p.Before q) : Visit.standIn s' (.attempt u q) = .attempt u q :=
    congrArg (Visit.attempt u) ((h.standIn_spec ((hv.attempt u q).mp hq).2.policy).2.2.2 hnot)
  rw [List.map_append, List.map_cons, hsame hp p.before_irrefl]
  refine congrArg (· ++ _) ?_
  conv_rhs => rw [← List.map_id before]
  refine List.map_congr_left fun v hm => ?_
  cases v with
  | unbound u => rfl
  | attempt u q =>
    have hq := List.mem_append_left (.attempt t p :: after) hm
    refine hsame hq (Policy.Before.asymm ?_)
    have hbefore := hascending _ hm _ List.mem_cons_self
    simp only [Visit.Before] at hbefore
    unfold Policy.Before
    rwa [hv.type_eq hp, hv.type_eq hq]

end SameUpTo

end Snapshot

namespace Application

section Ends
variable (registry : Registry) (validator : Validator) (s : Snapshot) (sequence : Int) (d : Document) (matched : IdSet)

/-- The application is over with the policy. -/
structure CutOff (p : Policy) (a : Application) : Prop where
  last : a.applied.getLast? = some p.id
  calls : ∀ c ∈ a.attempts, ∃ q, s.policy? c.policy = some q ∧ ¬ p.Before q
  diagnostics : ∀ r ∈ a.diagnostics, (∃ t, r.scope = .policyType t ∧ t < p.typeId) ∨
    ∃ q, s.policy? q.id = some q ∧ r.scope = .policy q.id ∧ q.Before p
  /-- It would have been the same with any other policies after it. -/
  sealed : ∀ s', s.SameUpTo p s' → run registry validator s' sequence d matched = a

/-- How an application that plans the visits may end: all of them have been made and none has stopped it, or they
have been made up to the first one that stops it. -/
inductive Ends (visits : List Visit) (a : Application) : Prop where
  | complete (runs : Runs registry validator sequence (start d) visits a)
      (records : Records validator sequence (start d) visits a)
  | stopped {before after : List Visit} {t : PolicyType} {p : Policy} {b : Application}
      (split : visits = before ++ .attempt t p :: after)
      (runs : Runs registry validator sequence (start d) before b) (stops : Stops registry validator sequence b t p a)
      (records : Records validator sequence (start d) (before ++ [.attempt t p]) a)
      (cutOff : CutOff registry validator s sequence d matched p a)

end Ends

variable {registry : Registry} {validator : Validator} {s : Snapshot} {sequence : Int} {matched : IdSet}

theorem mem_visits_of_mem_attempts {a b : Application} {visits : List Visit}
    (h : Records validator sequence a visits b) (ha : a.attempts = []) {c : Attempt} (hc : c ∈ b.attempts) :
    ∃ t q, .attempt t q ∈ visits ∧ q.id = c.policy := by
  rw [h.attempts, ha, List.nil_append] at hc
  obtain ⟨v, hv, hcall⟩ := List.mem_filterMap.mp hc
  cases v with
  | unbound t => cases hcall
  | attempt t q =>
    refine ⟨t, q, hv, ?_⟩
    simp only [Visit.call?] at hcall
    split at hcall
    · rw [← Option.some.inj hcall]
    · cases hcall

theorem mem_visits_of_mem_diagnostics {a b : Application} {visits : List Visit}
    (h : Records validator sequence a visits b) (ha : a.diagnostics = []) {r : Diagnostic} (hr : r ∈ b.diagnostics) :
    ∃ v ∈ visits, v.scope = r.scope := by
  obtain ⟨told, he, hsub⟩ := h.diagnostics
  rw [he, ha, List.nil_append] at hr
  exact List.mem_map.mp (hsub.subset (List.mem_map_of_mem hr))

theorem before_of_split {ids : Int → Prop} {before after : List Visit} {t : PolicyType} {p : Policy}
    (hv : s.Plan registry.Binds ids (before ++ .attempt t p :: after)) {v : Visit} (hm : v ∈ before) :
    match v with
    | .unbound u => u.id < p.typeId
    | .attempt _ q => s.policy? q.id = some q ∧ q.Before p := by
  have hbefore := (List.pairwise_append.mp hv.ascending).2.2 _ hm _ List.mem_cons_self
  have hp : p.typeId = t.id := hv.type_eq (List.mem_append_right _ List.mem_cons_self)
  have hm := List.mem_append_left (.attempt t p :: after) hm
  cases v with
  | unbound u => exact hp ▸ hbefore
  | attempt u q =>
    refine ⟨((hv.attempt u q).mp hm).2.policy, ?_⟩
    unfold Policy.Before
    rw [hp, hv.type_eq hm]
    exact hbefore

/-- A snapshot that is the same up to the policy that stops the application gives the same application. -/
theorem run_eq_of_stops (hr : registry.ResolvesByPriority)
    (htypes : ∀ id p, s.policy? id = some p → ∃ t, s.policyType? p.typeId = some t) {d : Document}
    {before after : List Visit} {t : PolicyType} {p : Policy} {a b : Application}
    (hv : s.Plan registry.Binds (s.Attached matched) (before ++ .attempt t p :: after))
    (hruns : Runs registry validator sequence (start d) before b) (hstops : Stops registry validator sequence b t p a)
    {s' : Snapshot} (hs : s.SameUpTo p s') : run registry validator s' sequence d matched = a := by
  have htypes' : ∀ id q', s'.policy? id = some q' → ∃ t, s'.policyType? q'.typeId = some t := by
    intro id q' hq'
    obtain rfl := Snapshot.id_of_policy? hq'
    obtain ⟨q, hq, rfl⟩ := hs.exists_standIn hq'
    rw [(hs.standIn_spec hq).2.1, hs.policyType?_eq]
    exact htypes _ _ hq
  have hplan := hs.plan hv
  rw [hs.map_standIn hv, ← hs.attached_eq] at hplan
  rw [run_eq_foldl_advance hr htypes', (s'.planFor_spec registry.Binds matched).unique hplan, List.foldl_append,
    List.foldl_cons, hruns.foldl_advance rfl, hstops.advance_eq (hruns.stopped_eq rfl),
    foldl_advance_of_stopped _ hstops.stopped_eq]

theorem cutOff_of_stops (hr : registry.ResolvesByPriority)
    (htypes : ∀ id p, s.policy? id = some p → ∃ t, s.policyType? p.typeId = some t) {d : Document}
    {before after : List Visit} {t : PolicyType} {p : Policy} {a b : Application}
    (hv : s.Plan registry.Binds (s.Attached matched) (before ++ .attempt t p :: after))
    (hruns : Runs registry validator sequence (start d) before b)
    (hstops : Stops registry validator sequence b t p a) :
    CutOff registry validator s sequence d matched p a := by
  obtain ⟨hrecords, hdiagnostics, hlast⟩ := hstops.records
  refine ⟨hlast, fun c hc => ?_, fun r hm => ?_, fun s' hs => run_eq_of_stops hr htypes hv hruns hstops hs⟩
  · obtain ⟨u, q, hq, hid⟩ := mem_visits_of_mem_attempts (hruns.records.trans hrecords) rfl hc
    rcases List.mem_append.mp hq with hq | hq
    · have ⟨hpolicy, hbefore⟩ := before_of_split hv hq
      exact ⟨q, hid ▸ hpolicy, hbefore.asymm⟩
    · obtain ⟨-, rfl⟩ := Visit.attempt.inj (List.mem_singleton.mp hq)
      have hp : .attempt t q ∈ before ++ .attempt t q :: after := List.mem_append_right _ List.mem_cons_self
      exact ⟨q, hid ▸ ((hv.attempt t q).mp hp).2.policy, q.before_irrefl⟩
  · rw [hdiagnostics] at hm
    obtain ⟨v, hv', hscope⟩ := mem_visits_of_mem_diagnostics hruns.records rfl hm
    have hbefore := before_of_split hv hv'
    cases v with
    | unbound u => exact .inl ⟨u.id, hscope.symm, hbefore⟩
    | attempt u q => exact .inr ⟨q, hbefore.1, hscope.symm, hbefore.2⟩

/-- Whatever handlers are bound, as long as each of them resolves by priority: either every planned visit is made,
or the first policy whose handler stops the application cuts off everything after it and nothing before it. -/
theorem run_ends {c : Configuration} {persisted : Option Instant} (h : Snapshot.build c persisted = .ok s)
    (hr : registry.ResolvesByPriority) (validator : Validator) (sequence : Int) (d : Document) (matched : IdSet) :
    ∃ visits, s.Plan registry.Binds (s.Attached matched) visits ∧
      Ends registry validator s sequence d matched visits (run registry validator s sequence d matched) := by
  have hc : s.Closed := (Snapshot.build_eq_ok_iff.mp h).closed
  have htypes : ∀ id p, s.policy? id = some p → ∃ t, s.policyType? p.typeId = some t :=
    fun _ _ hp => hc.exists_type hp
  have hv := s.planFor_spec registry.Binds matched
  have hbinding : ∀ v ∈ s.planFor registry.Binds matched, v.Binding registry := by
    intro v hm
    cases v with
    | unbound t => exact ((hv.unbound t).mp hm).1
    | attempt t p => exact ((hv.attempt t p).mp hm).1
  refine ⟨s.planFor registry.Binds matched, hv, ?_⟩
  rw [run_eq_foldl_advance hr htypes]
  rcases runs_or_stops _ hbinding (a := start d) rfl with hruns | ⟨before, t, p, after, b, hsplit, hruns, hstops⟩
  · exact .complete hruns hruns.records
  · refine .stopped hsplit hruns hstops (hruns.records.trans hstops.records.1) ?_
    rw [hsplit] at hv
    exact cutOff_of_stops hr htypes hv hruns hstops

def sealing : Handler where
  name := "seal"
  resolve _ policies := Policy.resolve policies
  apply d p _ :=
    if p.name = "fail" then (d.addValue "sealed" p.name, .error (.policyDetails p.id (.missingField "seal")))
    else if p.name = "stop" then (d.addValue "sealed" p.name, .ok .stop)
    else (d, .ok .goOn)

def sealedRules : Configuration where
  collections := [⟨1, "contracts", none, .and [], .ofList [1, 2, 3, 4, 5, 6]⟩]
  policies := [
    ⟨1, "unread", none, 5, 0, .null⟩,
    ⟨2, "pass", none, 10, 0, .null⟩,
    ⟨3, "fail", none, 10, 0, .null⟩,
    ⟨4, "stop", none, 10, 0, .null⟩,
    ⟨5, "fail", none, 10, 0, .null⟩,
    ⟨6, "late", none, 20, 0, FieldAction.detailsJson [⟨"class", .set, "late"⟩]⟩]
  policyTypes := [⟨5, "Other", "Other", none, none, "other_policy"⟩, ⟨10, "Seal", "Seal", none, none, "seal"⟩, .tag 20]

theorem run_ends_of_sealedRules :
    ∃ s, Snapshot.build sealedRules none = .ok s ∧
      (∃ visits, s.Plan (Registry.defaults.register sealing).Binds (s.Attached (.ofList [1])) visits ∧
        Ends (.register .defaults sealing) Schema.validate s 1 (.new "a") (.ofList [1]) visits
          (run (.register .defaults sealing) Schema.validate s 1 (.new "a") (.ofList [1]))) ∧
      (run (.register .defaults sealing) Schema.validate s 1 (.new "a") (.ofList [1])).applied = [2, 4] ∧
      (run (.register .defaults sealing) Schema.validate s 1 (.new "a") (.ofList [1])).diagnostics.map
        Diagnostic.scope = [.policyType 5, .policy 3] := by
  obtain ⟨s, hs⟩ : ∃ s, Snapshot.build sealedRules none = .ok s := ⟨_, rfl⟩
  refine ⟨s, hs, run_ends hs (Registry.defaults_resolvesByPriority.register fun _ _ => rfl) Schema.validate 1
    (.new "a") (.ofList [1]), ?_⟩
  cases hs
  decide +kernel

end Application

end Filing
