import Filing.Proofs.Condition.Failure
import Mathlib.Data.List.Perm.Subperm

/-!
# The limit on references

An evaluation exceeds its limit where it comes to a reference with as many references behind it as may be followed.
A larger limit then leads to something else. Every other outcome it leaves as it is, down to the leaves that are
asked. A limit that is not below the number of shared conditions is only exceeded where some shared condition leads
to itself: the references up to the last one name more shared conditions than there are.
-/

namespace Filing

namespace Judgement
variable {leaf : Leaf → Verdict} {limit : Nat} {x x' y : Judgement} {b : Bool}

/-- The error of a leaf that has been asked is the error of the evaluation. -/
def Honest (leaf : Leaf → Verdict) (x : Judgement) : Prop :=
  ∀ l ∈ x.asked, ∀ e, leaf l = .error e → x.verdict = .error e

/-- The evaluation has failed for a chain of references that is longer than the limit. No leaf has given that error. -/
structure TooDeep (leaf : Leaf → Verdict) (limit : Nat) (x : Judgement) : Prop where
  fault : ∃ id, x.verdict = .error (.conditionEvaluation (.tooDeep id limit))
  leaves : ∀ l ∈ x.asked, ∀ e, leaf l ≠ .error e

/-- The second judgement is that of a larger limit: the same one, unless the first one is due to the limit. -/
structure Raised (leaf : Leaf → Verdict) (limit : Nat) (x x' : Judgement) : Prop where
  honest : x.Honest leaf
  same : x' = x ∨ x.TooDeep leaf limit

theorem Honest.not_error (h : x.Honest leaf) (hx : x.verdict = .ok b) :
    ∀ l ∈ x.asked, ∀ e, leaf l ≠ .error e := by
  intro l hl e he
  rw [h l hl e he] at hx
  cases hx

theorem Honest.negate (h : x.Honest leaf) : x.negate.Honest leaf := by
  intro l hl e he
  exact Verdict.negate_eq_error_iff.mpr (h l hl e he)

theorem Honest.goOn (hx : x.Honest leaf) (hy : y.Honest leaf) : (x.goOn b y).Honest leaf := by
  by_cases hb : x.verdict = .ok b
  · rw [goOn_of_eq hb]
    intro l hl e he
    rcases List.mem_append.mp hl with hl | hl
    · exact absurd he (hx.not_error hb l hl e)
    · exact hy l hl e he
  · rw [goOn_of_ne hb]
    exact hx

theorem TooDeep.ne_ok (h : x.TooDeep leaf limit) : x.verdict ≠ .ok b := by
  obtain ⟨id, hid⟩ := h.fault
  rw [hid]
  exact fun he => nomatch he

theorem tooDeep_negate_iff : x.negate.TooDeep leaf limit ↔ x.TooDeep leaf limit := by
  have hfault (id : Int) : x.negate.verdict = .error (.conditionEvaluation (.tooDeep id limit)) ↔
      x.verdict = .error (.conditionEvaluation (.tooDeep id limit)) := Verdict.negate_eq_error_iff
  constructor
  · rintro ⟨⟨id, hid⟩, hleaves⟩
    exact ⟨⟨id, (hfault id).mp hid⟩, hleaves⟩
  · rintro ⟨⟨id, hid⟩, hleaves⟩
    exact ⟨⟨id, (hfault id).mpr hid⟩, hleaves⟩

theorem TooDeep.of_goOn (h : (x.goOn b y).TooDeep leaf limit) : x.TooDeep leaf limit ∨ y.TooDeep leaf limit := by
  by_cases hb : x.verdict = .ok b
  · rw [goOn_of_eq hb] at h
    exact .inr ⟨h.fault, fun l hl => h.leaves l (List.mem_append_right _ hl)⟩
  · rw [goOn_of_ne hb] at h
    exact .inl h

theorem not_tooDeep_kept : Kept fun x _ => ¬ x.TooDeep leaf limit where
  verdict _ h := h.ne_ok rfl
  goOn _ _ _ _ _ hx hy h := by
    rcases h.of_goOn with h | h
    · exact hx h
    · exact hy h

theorem raised_kept : Kept (Raised leaf limit) where
  verdict b := ⟨fun _ hl => (nomatch hl), .inl rfl⟩
  goOn b x x' y y' hx hy := by
    refine ⟨hx.honest.goOn hy.honest, ?_⟩
    rcases hx.same with rfl | hdeep
    · by_cases hb : x'.verdict = .ok b
      · rw [goOn_of_eq hb, goOn_of_eq hb]
        rcases hy.same with rfl | hdeep
        · exact .inl rfl
        · refine .inr ⟨hdeep.fault, fun l hl => ?_⟩
          rcases List.mem_append.mp hl with hl | hl
          · exact hx.honest.not_error hb l hl
          · exact hdeep.leaves l hl
      · rw [goOn_of_ne hb, goOn_of_ne hb]
        exact .inl rfl
    · rw [goOn_of_ne hdeep.ne_ok]
      exact .inr hdeep

theorem Raised.negate (h : Raised leaf limit x x') : Raised leaf limit x.negate x'.negate := by
  refine ⟨h.honest.negate, ?_⟩
  rcases h.same with rfl | hdeep
  · exact .inl rfl
  · exact .inr (tooDeep_negate_iff.mpr hdeep)

theorem honest_fault (f : ConditionFault) : (fault f).Honest leaf := fun _ hl => nomatch hl

theorem raised_fault (f : ConditionFault) : Raised leaf limit (.fault f) (.fault f) :=
  ⟨honest_fault f, .inl rfl⟩

theorem raised_leaf (l : Leaf) : Raised leaf limit ⟨leaf l, [l]⟩ ⟨leaf l, [l]⟩ := by
  refine ⟨fun l' hl e he => ?_, .inl rfl⟩
  rw [List.mem_singleton.mp hl] at he
  exact he

theorem tooDeep_fault (id : Int) : TooDeep leaf limit (.fault (.tooDeep id limit)) :=
  ⟨⟨id, rfl⟩, fun _ hl => nomatch hl⟩

end Judgement

namespace Condition
variable {leaf : Leaf → Verdict} {s : Snapshot} {c : Condition} {ids : List Int} {limit left : Nat}

/-- The evaluation ends because it comes to a chain of references that is longer than the limit. Its error says so,
and it is not the answer of a leaf. -/
structure ExceedsLimit (leaf : Leaf → Verdict) (s : Snapshot) (limit : Nat) (c : Condition) : Prop where
  fault : ∃ id, c.evaluate leaf s limit = .error (.conditionEvaluation (.tooDeep id limit))
  leaves : ∀ l ∈ c.asked leaf s limit, ∀ e, leaf l ≠ .error e

theorem exceedsLimit_iff :
    c.ExceedsLimit leaf s limit ↔ (c.judgementAt leaf s limit limit).TooDeep leaf limit :=
  ⟨fun h => ⟨h.fault, h.leaves⟩, fun h => ⟨h.fault, h.leaves⟩⟩

theorem judgementAt_raised {left' limit' : Nat} (h : left ≤ left') :
    Judgement.Raised leaf limit (c.judgementAt leaf s limit left) (c.judgementAt leaf s limit' left') := by
  induction left generalizing left' c with
  | zero =>
    rw [judgementAt_eq, judgementAt_eq]
    apply judgementWith_related Judgement.raised_kept
    refine ⟨fun l _ => Judgement.raised_leaf l, fun id _ => ?_, fun _ _ _ _ => Judgement.Raised.negate⟩
    exact ⟨Judgement.honest_fault _, .inr (Judgement.tooDeep_fault id)⟩
  | succ left ih =>
    obtain ⟨left', rfl⟩ := Nat.exists_eq_add_of_lt h
    rw [judgementAt_eq, judgementAt_eq]
    apply judgementWith_related Judgement.raised_kept
    refine ⟨fun l _ => Judgement.raised_leaf l, fun id _ => ?_, fun _ _ _ _ => Judgement.Raised.negate⟩
    simp only [told]
    cases s.condition? id with
    | none => exact Judgement.raised_fault _
    | some target =>
      apply ih
      omega

theorem judgementAt_honest : (c.judgementAt leaf s limit left).Honest leaf := by
  have hraised : Judgement.Raised leaf limit (c.judgementAt leaf s limit left) (c.judgementAt leaf s limit left) :=
    judgementAt_raised (Nat.le_refl left)
  exact hraised.honest

theorem exceedsLimit_of_error {d : Document} {id : Int}
    (he : c.evaluate (Leaf.evaluate s d) s limit = .error (.conditionEvaluation (.tooDeep id limit))) :
    c.ExceedsLimit (Leaf.evaluate s d) s limit := by
  refine ⟨⟨id, he⟩, fun l hl e hle => ?_⟩
  have herror : c.evaluate (Leaf.evaluate s d) s limit = .error e := judgementAt_honest l hl e hle
  obtain ⟨fault, rfl, hfails⟩ := Leaf.evaluate_eq_error_iff.mp hle
  cases he.symm.trans herror
  obtain ⟨field, test⟩ := l
  cases hfails

/-- A larger limit keeps every verdict and every error that a leaf has given. Only an outcome that is due to the limit
is replaced by another one; otherwise the same leaves are asked as well. -/
theorem evaluate_of_limit_le {limit' : Nat} (h : limit ≤ limit') (leaf : Leaf → Verdict) (s : Snapshot)
    (c : Condition) :
    (∀ b, c.evaluate leaf s limit = .ok b → c.evaluate leaf s limit' = .ok b) ∧
      (∀ l ∈ c.asked leaf s limit, ∀ e, leaf l = .error e →
        c.evaluate leaf s limit = .error e ∧ c.evaluate leaf s limit' = .error e) ∧
      (c.evaluate leaf s limit' = c.evaluate leaf s limit ∧ c.asked leaf s limit' = c.asked leaf s limit ∨
        c.ExceedsLimit leaf s limit) := by
  obtain ⟨hhonest, hsame⟩ : Judgement.Raised leaf limit (c.judgementAt leaf s limit limit)
    (c.judgementAt leaf s limit' limit') := judgementAt_raised h
  have hcases : c.evaluate leaf s limit' = c.evaluate leaf s limit ∧ c.asked leaf s limit' = c.asked leaf s limit ∨
      c.ExceedsLimit leaf s limit := by
    rcases hsame with he | hdeep
    · exact .inl ⟨congrArg Judgement.verdict he, congrArg Judgement.asked he⟩
    · exact .inr (exceedsLimit_iff.mpr hdeep)
  refine ⟨fun b hb => ?_, fun l hl e he => ?_, hcases⟩
  · rcases hcases with ⟨hverdict, -⟩ | hexceeds
    · rw [hverdict, hb]
    · exact absurd hb (exceedsLimit_iff.mp hexceeds).ne_ok
  · have herror : c.evaluate leaf s limit = .error e := hhonest l hl e he
    rcases hcases with ⟨hverdict, -⟩ | hexceeds
    · exact ⟨herror, hverdict.trans herror⟩
    · exact absurd he (hexceeds.leaves l hl e)

def shipments : Configuration where
  conditions := [⟨1, "pending", .not (.reference 2)⟩,
    ⟨2, "delivered", .or [.leaf ⟨"delivery", .present⟩, .reference 1]⟩]

def lateDelivery : Leaf := ⟨"delivery", .expression "late"⟩

/-- Of an order that has been delivered, a verdict and the error of a leaf are kept, and one reference more leads from
an exceeded limit to a verdict. -/
theorem evaluate_of_limit_le_shipments :
    ∃ s d, Snapshot.build shipments none = .ok s ∧ 1 ≤ 2 ∧ 2 ≤ 5 ∧
      (reference 1).evaluate (Leaf.evaluate s d) s 2 = .ok false ∧
      (reference 1).evaluate (Leaf.evaluate s d) s 5 = .ok false ∧
      lateDelivery ∈ (or [.reference 1, .leaf lateDelivery]).asked (Leaf.evaluate s d) s 2 ∧
      (or [.reference 1, .leaf lateDelivery]).evaluate (Leaf.evaluate s d) s 5 =
        .error (.conditionEvaluation (.needsEvaluator "late")) ∧
      (reference 1).evaluate (Leaf.evaluate s d) s 1 = .error (.conditionEvaluation (.tooDeep 2 1)) ∧
      (reference 1).ExceedsLimit (Leaf.evaluate s d) s 1 := by
  obtain ⟨s, d, hs, hfalse, hasked, hdeep⟩ : ∃ s d, Snapshot.build shipments none = .ok s ∧
      (reference 1).evaluate (Leaf.evaluate s d) s 2 = .ok false ∧
      lateDelivery ∈ (or [.reference 1, .leaf lateDelivery]).asked (Leaf.evaluate s d) s 2 ∧
      (reference 1).evaluate (Leaf.evaluate s d) s 1 = .error (.conditionEvaluation (.tooDeep 2 1)) := by
    refine ⟨_, (Document.new "order").setField "delivery" "Monday", rfl, rfl, ?_, rfl⟩
    decide +kernel
  have hone : 1 ≤ 2 := by decide
  have htwo : 2 ≤ 5 := by decide
  refine ⟨s, d, hs, hone, htwo, hfalse, ?_, hasked, ?_, hdeep, ?_⟩
  · exact (evaluate_of_limit_le htwo _ s _).1 false hfalse
  · exact ((evaluate_of_limit_le htwo _ s _).2.1 lateDelivery hasked _ rfl).2
  · rcases (evaluate_of_limit_le hone _ s (reference 1)).2.2 with ⟨hsame, -⟩ | hexceeds
    · rw [hfalse, hdeep] at hsame
      cases hsame
    · exact hexceeds

theorem exists_reference_of_tooDeep {refer : Int → Judgement}
    (h : (c.judgementWith leaf refer).TooDeep leaf limit) :
    ∃ id, (reference id).PartOf c ∧ (refer id).TooDeep leaf limit := by
  by_contra hnone
  have halike : Alike (fun x _ => ¬ x.TooDeep leaf limit) leaf leaf refer refer c := by
    refine ⟨fun l _ hl => ?_, fun id hid hdeep => hnone ⟨id, hid, hdeep⟩, fun d _ x _ hx => ?_⟩
    · obtain ⟨id, hid⟩ := hl.fault
      exact hl.leaves l (List.mem_singleton_self l) _ hid
    · rwa [Judgement.tooDeep_negate_iff]
  exact judgementWith_related Judgement.not_tooDeep_kept c halike h

/-- Behind the reference at which the limit is exceeded stand as many as may be followed. -/
theorem exists_chain_of_tooDeep (h : (c.judgementAt leaf s limit left).TooDeep leaf limit) :
    ∃ ids, Chain s c ids ∧ ids.length = left + 1 := by
  induction left generalizing c with
  | zero =>
    rw [judgementAt_eq] at h
    obtain ⟨id, hid, -⟩ := exists_reference_of_tooDeep h
    exact ⟨[id], .last (mem_referencedConditions.mpr hid), rfl⟩
  | succ left ih =>
    rw [judgementAt_eq] at h
    obtain ⟨id, hid, hdeep⟩ := exists_reference_of_tooDeep h
    simp only [told] at hdeep
    cases ht : s.condition? id with
    | none =>
      rw [ht] at hdeep
      obtain ⟨id', hfault⟩ := hdeep.fault
      cases hfault
    | some target =>
      rw [ht] at hdeep
      obtain ⟨ids, hids, hlength⟩ := ih hdeep
      exact ⟨id :: ids, .cons (mem_referencedConditions.mpr hid) ht hids, by rw [List.length_cons, hlength]⟩

theorem Chain.reaches (h : Chain s c ids) : ∀ id ∈ ids, s.Reaches c (.reference id) := by
  induction h with
  | last hid =>
    intro id hmem
    obtain rfl := List.mem_singleton.mp hmem
    exact .part (mem_referencedConditions.mp hid)
  | cons hid ht _ ih =>
    intro id hmem
    rcases List.mem_cons.mp hmem with rfl | hmem
    · exact .part (mem_referencedConditions.mp hid)
    · exact .refer (mem_referencedConditions.mp hid) ht (ih id hmem)

end Condition

namespace Snapshot
variable {s : Snapshot} {c : Condition} {ids : List Int} {limit : Nat}

/-- A shared condition that the condition leads to leads to itself, over one reference or more. -/
def LeadsToCycle (s : Snapshot) (c : Condition) : Prop :=
  ∃ id target, s.condition? id = some target ∧ s.Reaches c (.reference id) ∧ s.Reaches target (.reference id)

def Acyclic (s : Snapshot) : Prop :=
  ∀ id target, s.condition? id = some target → ¬ s.Reaches target (.reference id)

theorem Acyclic.not_leadsToCycle (h : s.Acyclic) : ¬ s.LeadsToCycle c := by
  rintro ⟨id, target, ht, -, hcycle⟩
  exact h id target ht hcycle

end Snapshot

namespace Condition
variable {leaf : Leaf → Verdict} {s : Snapshot} {c : Condition} {ids : List Int} {limit : Nat}

theorem Chain.leadsToCycle (h : Chain s c ids) (hagain : ¬ ids.Nodup) : s.LeadsToCycle c := by
  induction h with
  | last => exact absurd (List.nodup_singleton _) hagain
  | @cons c target id ids hid ht hrest ih =>
    have hid' := mem_referencedConditions.mp hid
    by_cases hmem : id ∈ ids
    · exact ⟨id, target, ht, .part hid', hrest.reaches id hmem⟩
    · have hrest' : ¬ ids.Nodup := fun hn => hagain (List.nodup_cons.mpr ⟨hmem, hn⟩)
      obtain ⟨j, target', ht', hj, hcycle⟩ := ih hrest'
      exact ⟨j, target', ht', .refer hid' ht hj, hcycle⟩

theorem Chain.contains (hs : s.Closed) (h : Chain s c ids)
    (hc : 1 < ids.length ∨ ∀ id ∈ c.referencedConditions, s.conditions.contains id = true) :
    ∀ id ∈ ids, s.conditions.contains id = true := by
  induction h with
  | last hid =>
    intro id hmem
    obtain rfl := List.mem_singleton.mp hmem
    rcases hc with hc | hc
    · exact absurd hc (Nat.lt_irrefl 1)
    · exact hc _ hid
  | cons hid ht _ ih =>
    intro id hmem
    rcases List.mem_cons.mp hmem with rfl | hmem
    · obtain ⟨shared, hshared, -⟩ := Option.map_eq_some_iff.mp ht
      exact Option.isSome_of_eq_some hshared
    · exact ih (.inr (hs.covers_shared ht).conditions) id hmem

theorem length_le_size (hn : ids.Nodup) (h : ∀ id ∈ ids, s.conditions.contains id = true) :
    ids.length ≤ s.conditions.size := by
  have hsub : ids ⊆ s.conditions.keys := by
    intro id hid
    obtain ⟨shared, hshared, rfl⟩ := Index.contains_iff.mp (h id hid)
    exact List.mem_map_of_mem hshared
  have hle := (hn.subperm hsub).length_le
  rwa [Index.keys, List.length_map] at hle

/-- A limit that is not below the number of shared conditions is exceeded only where there is a cycle; without cycles
it never is, whatever the document. The condition may come from elsewhere: then the limit must not be zero, which
leaves no reference to be followed, or else its own references have to name shared conditions. -/
theorem leadsToCycle_of_exceedsLimit {config : Configuration} {persisted : Option Instant}
    (hs : Snapshot.build config persisted = .ok s) (hlimit : s.conditions.size ≤ limit)
    (hc : 0 < limit ∨ ∀ id ∈ c.referencedConditions, s.conditions.contains id = true) :
    (∀ leaf, c.ExceedsLimit leaf s limit → s.LeadsToCycle c) ∧
      (s.Acyclic → (∀ leaf, ¬ c.ExceedsLimit leaf s limit) ∧
        ∀ d id, c.evaluate (Leaf.evaluate s d) s limit ≠ .error (.conditionEvaluation (.tooDeep id limit))) := by
  have hclosed : s.Closed := (Snapshot.build_eq_ok_iff.mp hs).closed
  have hcycle : ∀ leaf, c.ExceedsLimit leaf s limit → s.LeadsToCycle c := by
    intro leaf h
    obtain ⟨ids, hids, hlength⟩ := exists_chain_of_tooDeep (exceedsLimit_iff.mp h)
    apply hids.leadsToCycle
    intro hn
    have hnamed : ∀ id ∈ ids, s.conditions.contains id = true := by
      apply hids.contains hclosed
      exact hc.imp_left fun hpos => by omega
    have hle := length_le_size hn hnamed
    omega
  refine ⟨hcycle, fun hacyclic => ⟨fun leaf h => ?_, fun d id he => ?_⟩⟩
  · exact hacyclic.not_leadsToCycle (hcycle leaf h)
  · exact hacyclic.not_leadsToCycle (hcycle _ (exceedsLimit_of_error he))

theorem acyclic_titles (hs : Snapshot.build titles none = .ok s) : s.Acyclic := by
  have hitems : s.conditions.items = titles.conditions := by
    cases hs
    rfl
  have htitled : ∀ target, s.condition? 1 = some target → target = .leaf ⟨"title", .present⟩ := by
    intro target ht
    cases hs
    exact (Option.some.inj ht).symm
  intro id target ht hcycle
  obtain ⟨shared, hshared, rfl⟩ := Option.map_eq_some_iff.mp ht
  obtain ⟨hmem, rfl⟩ := Index.get?_eq_some_iff.mp hshared
  rw [hitems, titles] at hmem
  simp only [List.mem_cons, List.not_mem_nil, or_false] at hmem
  rcases hmem with rfl | rfl
  · cases Snapshot.Reaches.leaf_iff.mp hcycle
  · rcases Snapshot.Reaches.not_iff.mp hcycle with he | hcycle
    · cases he
    · rcases Snapshot.Reaches.reference_iff.mp hcycle with he | ⟨target, ht, hcycle⟩
      · cases he
      · rw [htitled target ht] at hcycle
        cases Snapshot.Reaches.leaf_iff.mp hcycle

theorem leadsToCycle_of_shipments :
    (∃ s, Snapshot.build shipments none = .ok s ∧ s.conditions.size ≤ 2 ∧
      (reference 1).ExceedsLimit (Leaf.evaluate s (Document.new "order")) s 2 ∧ s.LeadsToCycle (.reference 1)) ∧
    ∃ s, Snapshot.build titles none = .ok s ∧ s.conditions.size ≤ 2 ∧ s.Acyclic ∧
      ∀ leaf, ¬ titleReferences.ExceedsLimit leaf s 2 := by
  constructor
  · obtain ⟨s, hs, hsize, herror, hasked⟩ : ∃ s, Snapshot.build shipments none = .ok s ∧ s.conditions.size ≤ 2 ∧
        (reference 1).evaluate (Leaf.evaluate s (Document.new "order")) s 2 =
          .error (.conditionEvaluation (.tooDeep 1 2)) ∧
        (reference 1).asked (Leaf.evaluate s (Document.new "order")) s 2 = [⟨"delivery", .present⟩] :=
      ⟨_, rfl, Nat.le_refl 2, rfl, rfl⟩
    have hexceeds : (reference 1).ExceedsLimit (Leaf.evaluate s (Document.new "order")) s 2 := by
      refine ⟨⟨1, herror⟩, fun l hl e he => ?_⟩
      rw [hasked] at hl
      obtain rfl := List.mem_singleton.mp hl
      cases he
    exact ⟨s, hs, hsize, hexceeds, (leadsToCycle_of_exceedsLimit hs hsize (.inl Nat.two_pos)).1 _ hexceeds⟩
  · obtain ⟨s, hs, hsize⟩ : ∃ s, Snapshot.build titles none = .ok s ∧ s.conditions.size ≤ 2 :=
      ⟨_, rfl, Nat.le_refl 2⟩
    have hacyclic := acyclic_titles hs
    exact ⟨s, hs, hsize, hacyclic, ((leadsToCycle_of_exceedsLimit hs hsize (.inl Nat.two_pos)).2 hacyclic).1⟩

theorem exceedsLimit_of_strayReference :
    ∃ s, Snapshot.build {} none = .ok s ∧ s.conditions.size ≤ 0 ∧
      (∀ leaf, (reference 1).ExceedsLimit leaf s 0) ∧ ¬ s.LeadsToCycle (.reference 1) := by
  obtain ⟨s, hs, hnone⟩ : ∃ s, Snapshot.build {} none = .ok s ∧ s.conditions = .empty := ⟨_, rfl, rfl⟩
  refine ⟨s, hs, ?_, fun leaf => ⟨⟨1, rfl⟩, fun _ hl => nomatch hl⟩, ?_⟩
  · rw [hnone]
    exact Nat.le_refl 0
  · rintro ⟨id, target, ht, -⟩
    rw [Snapshot.condition?, hnone] at ht
    cases ht

end Condition

end Filing
