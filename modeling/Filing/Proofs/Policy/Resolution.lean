import Filing.Policy.Resolution
import Filing.Proofs.Index

/-!
# Which policies hold

Of policies of one type those hold that no other one exceeds in priority. They come by their identifiers, so the order
of the policies only matters where identifiers are equal. Policies may be resolved in parts: what holds of all of them
holds of what holds of the parts.
-/

namespace Filing

theorem IdSet.one_lt_size_iff {s : IdSet} : 1 < s.size ↔ ∃ a ∈ s.items, ∃ b ∈ s.items, a ≠ b := by
  obtain ⟨items, hs⟩ := s
  cases items with
  | nil => simp [Index.size]
  | cons x xs =>
    cases xs with
    | nil => simp [Index.size]
    | cons y ys =>
      have hxy : x < y := (List.pairwise_cons.mp hs).1 y List.mem_cons_self
      constructor
      · intro _
        exact ⟨x, by simp, y, by simp, Int.ne_of_lt hxy⟩
      · intro _
        simp [Index.size]

namespace Policy

/-- The policies that no other one of the list exceeds in priority. -/
def prevailing (policies : List Policy) : List Policy :=
  policies.filter fun p => policies.all fun q => q.priority ≤ p.priority

theorem mem_prevailing {policies : List Policy} {p : Policy} :
    p ∈ prevailing policies ↔ p ∈ policies ∧ ∀ q ∈ policies, q.priority ≤ p.priority := by
  simp [prevailing]

theorem topPriority?_eq_some_iff {policies : List Policy} {top : Int} :
    topPriority? policies = some top ↔
      (∃ p ∈ policies, p.priority = top) ∧ ∀ q ∈ policies, q.priority ≤ top := by
  rw [topPriority?, List.max?_eq_some_iff, List.mem_map]
  simp

theorem filter_topPriority {policies : List Policy} {top : Int}
    (h : topPriority? policies = some top) :
    (policies.filter fun p => p.priority == top) = prevailing policies := by
  obtain ⟨⟨p, hp, hpt⟩, htop⟩ := topPriority?_eq_some_iff.mp h
  refine List.filter_congr fun q hq => ?_
  rw [Bool.eq_iff_iff, beq_iff_eq, List.all_eq_true]
  constructor
  · intro he r hr
    exact decide_eq_true (he ▸ htop r hr)
  · intro hall
    have hpq : p.priority ≤ q.priority := of_decide_eq_true (hall p hp)
    have hqt := htop q hq
    omega

def types (policies : List Policy) : IdSet := .ofList (policies.map Policy.typeId)

def Mixed (policies : List Policy) : Prop := ∃ p ∈ policies, ∃ q ∈ policies, p.typeId ≠ q.typeId

variable {policies ps qs rs ts : List Policy} {p : Policy}

theorem mem_types {t : Int} : t ∈ (types policies).items ↔ ∃ p ∈ policies, p.typeId = t := by
  rw [types, Index.mem_ofList, List.mem_map]

theorem one_lt_size_types_iff : 1 < (types policies).size ↔ Mixed policies := by
  simp only [IdSet.one_lt_size_iff, mem_types, Mixed]
  constructor
  · rintro ⟨_, ⟨p, hp, rfl⟩, _, ⟨q, hq, rfl⟩, hne⟩
    exact ⟨p, hp, q, hq, hne⟩
  · rintro ⟨p, hp, q, hq, hne⟩
    exact ⟨_, ⟨p, hp, rfl⟩, _, ⟨q, hq, rfl⟩, hne⟩

theorem resolve_of_mixed (h : Mixed policies) :
    resolve policies = .error (.mixedPolicyType (types policies).items) :=
  if_pos (one_lt_size_types_iff.mpr h)

theorem resolve_of_not_mixed (h : ¬ Mixed policies) :
    resolve policies = .ok (sortOn Policy.id (prevailing policies)) := by
  have hsize : ¬ 1 < (types policies).size := mt one_lt_size_types_iff.mp h
  rw [types] at hsize
  simp only [resolve, if_neg hsize]
  cases ht : topPriority? policies with
  | none =>
    have hn : policies = [] := by simpa [topPriority?] using ht
    subst hn
    rfl
  | some top => simp only [filter_topPriority ht]

theorem resolve_of_oneType {t : Int} (h : ∀ p ∈ policies, p.typeId = t) :
    resolve policies = .ok (sortOn Policy.id (prevailing policies)) := by
  apply resolve_of_not_mixed
  rintro ⟨p, hp, q, hq, hne⟩
  exact hne ((h p hp).trans (h q hq).symm)

theorem resolve_eq_ok_iff :
    resolve policies = .ok rs ↔ ¬ Mixed policies ∧ rs = sortOn Policy.id (prevailing policies) := by
  by_cases h : Mixed policies
  · simp [resolve_of_mixed h, h]
  · simp [resolve_of_not_mixed h, h, eq_comm]

theorem resolve_congr (htypes : ∀ t, (∃ p ∈ ps, p.typeId = t) ↔ ∃ p ∈ qs, p.typeId = t)
    (h : sortOn Policy.id (prevailing ps) = sortOn Policy.id (prevailing qs)) : resolve ps = resolve qs := by
  have he : types ps = types qs := Index.ext_of_mem fun t => by rw [mem_types, mem_types, htypes]
  by_cases hm : Mixed ps
  · have hm' : Mixed qs := by rwa [← one_lt_size_types_iff, ← he, one_lt_size_types_iff]
    rw [resolve_of_mixed hm, resolve_of_mixed hm', he]
  · have hm' : ¬ Mixed qs := by rwa [← one_lt_size_types_iff, ← he, one_lt_size_types_iff]
    rw [resolve_of_not_mixed hm, resolve_of_not_mixed hm', h]

theorem prevailing_eq_filter {bound : Policy → Bool}
    (h : ∀ p, bound p = true ↔ ∀ q ∈ policies, q.priority ≤ p.priority) :
    prevailing policies = policies.filter bound := by
  refine List.filter_congr fun p _ => ?_
  rw [Bool.eq_iff_iff, h]
  simp

theorem prevailing_perm (h : ps.Perm qs) : (prevailing ps).Perm (prevailing qs) := by
  have hbound : ∀ p : Policy, (qs.all fun q => q.priority ≤ p.priority) = true ↔
      ∀ q ∈ ps, q.priority ≤ p.priority := by
    intro p
    simp [h.mem_iff]
  rw [prevailing_eq_filter hbound]
  exact h.filter _

theorem sortOn_prevailing_of_same_ties
    (h : ∀ id, ps.filter (fun p => p.id = id) = qs.filter (fun p => p.id = id)) :
    sortOn Policy.id (prevailing ps) = sortOn Policy.id (prevailing qs) := by
  have hmem : ∀ q, q ∈ ps ↔ q ∈ qs := fun q =>
    ⟨mem_of_same_ties h, mem_of_same_ties fun id => (h id).symm⟩
  have hbound : ∀ p : Policy, (qs.all fun q => q.priority ≤ p.priority) = true ↔
      ∀ q ∈ ps, q.priority ≤ p.priority := by
    intro p
    simp [hmem]
  apply sortOn_eq_of_same_ties
  intro id
  rw [prevailing_eq_filter hbound, prevailing, List.filter_comm, h id, List.filter_comm]

theorem exists_prevailing (h : p ∈ policies) : ∃ q ∈ prevailing policies, p.priority ≤ q.priority := by
  cases ht : topPriority? policies with
  | none =>
    have hn : policies = [] := by simpa [topPriority?] using ht
    rw [hn] at h
    cases h
  | some top =>
    obtain ⟨⟨q, hq, rfl⟩, htop⟩ := topPriority?_eq_some_iff.mp ht
    exact ⟨q, mem_prevailing.mpr ⟨hq, htop⟩, htop p h⟩

theorem forall_mem_prevailing_le_iff {n : Int} :
    (∀ q ∈ prevailing policies, q.priority ≤ n) ↔ ∀ q ∈ policies, q.priority ≤ n := by
  constructor
  · intro h q hq
    obtain ⟨r, hr, hqr⟩ := exists_prevailing hq
    exact Int.le_trans hqr (h r hr)
  · exact fun h q hq => h q (mem_prevailing.mp hq).1

/-- What prevails among all prevails among what prevails in the parts. -/
theorem prevailing_append (ps qs : List Policy) :
    prevailing (ps ++ qs) = prevailing (prevailing ps ++ prevailing qs) := by
  have hbound : ∀ p : Policy, ((ps ++ qs).all fun q => q.priority ≤ p.priority) = true ↔
      ∀ q ∈ prevailing ps ++ prevailing qs, q.priority ≤ p.priority := by
    intro p
    simp only [List.all_eq_true, decide_eq_true_eq, List.forall_mem_append, forall_mem_prevailing_le_iff]
  have hpart : ∀ us : List Policy, us ⊆ ps ++ qs →
      (prevailing us).filter (fun p => (ps ++ qs).all fun q => q.priority ≤ p.priority) =
        us.filter fun p => (ps ++ qs).all fun q => q.priority ≤ p.priority := by
    intro us hus
    rw [prevailing, List.filter_filter]
    refine List.filter_congr fun p _ => ?_
    rw [Bool.and_eq_left_iff_imp, List.all_eq_true, List.all_eq_true]
    exact fun h q hq => h q (hus hq)
  rw [prevailing_eq_filter hbound, List.filter_append, hpart ps (List.subset_append_left ps qs),
    hpart qs (List.subset_append_right ps qs), ← List.filter_append, prevailing]

theorem types_of_resolve (h : resolve policies = .ok rs) (t : Int) :
    (∃ p ∈ rs, p.typeId = t) ↔ ∃ p ∈ policies, p.typeId = t := by
  obtain ⟨hone, rfl⟩ := resolve_eq_ok_iff.mp h
  simp only [mem_sortOn]
  constructor
  · rintro ⟨p, hp, rfl⟩
    exact ⟨p, (mem_prevailing.mp hp).1, rfl⟩
  · rintro ⟨p, hp, rfl⟩
    obtain ⟨q, hq, -⟩ := exists_prevailing hp
    refine ⟨q, hq, ?_⟩
    by_contra hne
    exact hone ⟨q, (mem_prevailing.mp hq).1, p, hp, hne⟩

theorem resolve_append (hps : resolve ps = .ok rs) (hqs : resolve qs = .ok ts) :
    resolve (ps ++ qs) = resolve (rs ++ ts) := by
  apply resolve_congr
  · intro t
    simp only [List.mem_append, or_and_right, exists_or, types_of_resolve hps, types_of_resolve hqs]
  · obtain ⟨-, rfl⟩ := resolve_eq_ok_iff.mp hps
    obtain ⟨-, rfl⟩ := resolve_eq_ok_iff.mp hqs
    rw [prevailing_append]
    apply sortOn_prevailing_of_same_ties
    intro id
    simp only [List.filter_append, filter_sortOn]

/-- What policies are resolved to: those that prevail, each as often as it was there, in ascending order of their
identifiers; those with equal identifiers stay in their order. -/
structure Resolved (policies rs : List Policy) : Prop where
  kept : rs.Perm (prevailing policies)
  ordered : rs.Pairwise fun p q => p.id ≤ q.id
  ties : ∀ id, rs.filter (fun p => p.id = id) = (prevailing policies).filter fun p => p.id = id

theorem resolved_sortOn (policies : List Policy) : Resolved policies (sortOn Policy.id (prevailing policies)) where
  kept := sortOn_perm Policy.id _
  ordered := (sortOn_ordered Policy.id _).imp Int.not_lt.mp
  ties id := filter_sortOn id _

structure PriorityLaws (resolve : List Policy → Except Error (List Policy)) : Prop where
  mixed : ∀ ps, Mixed ps → ∃ ids, resolve ps = .error (.mixedPolicyType ids) ∧ ids.Pairwise (· < ·) ∧
    ∀ t, t ∈ ids ↔ ∃ p ∈ ps, p.typeId = t
  oneType : ∀ ps, ¬ Mixed ps → ∃ rs, resolve ps = .ok rs ∧ Resolved ps rs
  none : resolve [] = .ok []
  anyOrder : ∀ ps qs, (ps.map Policy.id).Nodup → ps.Perm qs → resolve ps = resolve qs
  again : ∀ ps rs, resolve ps = .ok rs → resolve rs = .ok rs
  inParts : ∀ ps qs rs ts, resolve ps = .ok rs → resolve qs = .ok ts → resolve (ps ++ qs) = resolve (rs ++ ts)

theorem resolve_perm (hn : (ps.map Policy.id).Nodup) (h : ps.Perm qs) : resolve ps = resolve qs := by
  apply resolve_congr
  · intro t
    simp only [h.mem_iff]
  · have hsub : ((prevailing ps).map Policy.id).Sublist (ps.map Policy.id) := List.filter_sublist.map _
    exact sortOn_eq_of_perm (hn.sublist hsub) (prevailing_perm h)

theorem resolve_again (h : resolve ps = .ok rs) : resolve rs = .ok rs := by
  have hnone : resolve [] = .ok [] := rfl
  have happend := resolve_append h hnone
  rwa [List.append_nil, List.append_nil, h, eq_comm] at happend

theorem resolve_priorityLaws : PriorityLaws resolve where
  mixed ps h := ⟨_, resolve_of_mixed h, (types ps).ascending, fun _ => mem_types⟩
  oneType ps h := ⟨_, resolve_of_not_mixed h, resolved_sortOn ps⟩
  none := rfl
  anyOrder _ _ := resolve_perm
  again _ _ := resolve_again
  inParts _ _ _ _ := resolve_append

end Policy

end Filing
