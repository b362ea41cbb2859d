import Filing.Proofs.Condition.Comparison
import Filing.Proofs.Snapshot.Build
import Mathlib.Tactic.Choose

/-!
# References are transparent

A condition expands to the tree in which each reference, at every level and over again, has given way to the
shared condition that it names. Where no chain of references is too long for the limit there is exactly one
such tree, and evaluating the condition comes to the same as evaluating the tree: the same verdict or the
same error, and the same leaves are asked in the same order.
-/

namespace Filing.Condition

theorem referencedConditions_reference (id : Int) : (reference id).referencedConditions = [id] := rfl

def referencedInAll (cs : List Condition) : List Int := (walkAll cs).filterMap referenceId?

theorem referencedInAll_cons (c : Condition) (cs : List Condition) :
    referencedInAll (c :: cs) = c.referencedConditions ++ referencedInAll cs := by
  rw [referencedInAll, walkAll, List.filterMap_append]
  rfl

mutual

/-- The condition with something else in the place of each reference. -/
def replace (f : Int → Condition) : Condition → Condition
  | .leaf l => .leaf l
  | .and cs => .and (replaceAll f cs)
  | .or cs => .or (replaceAll f cs)
  | .not c => .not (replace f c)
  | .reference id => f id

def replaceAll (f : Int → Condition) : List Condition → List Condition
  | [] => []
  | c :: cs => replace f c :: replaceAll f cs

end

section
variable {f g : Int → Condition}

mutual

theorem referencedConditions_replace : ∀ c : Condition,
    (c.replace f).referencedConditions =
      c.referencedConditions.flatMap fun id => (f id).referencedConditions
  | .leaf _ => rfl
  | .and cs => referencedInAll_replaceAll cs
  | .or cs => referencedInAll_replaceAll cs
  | .not c => referencedConditions_replace c
  | .reference id => by
    rw [replace, referencedConditions_reference, List.flatMap_cons, List.flatMap_nil, List.append_nil]

theorem referencedInAll_replaceAll : ∀ cs : List Condition,
    referencedInAll (replaceAll f cs) =
      (referencedInAll cs).flatMap fun id => (f id).referencedConditions
  | [] => rfl
  | c :: cs => by
    rw [replaceAll, referencedInAll_cons, referencedInAll_cons, List.flatMap_append,
      referencedConditions_replace c, referencedInAll_replaceAll cs]

end

mutual

theorem replace_congr : ∀ c : Condition, (∀ id ∈ c.referencedConditions, f id = g id) →
    c.replace f = c.replace g
  | .leaf _, _ => rfl
  | .and cs, h => congrArg and (replaceAll_congr cs h)
  | .or cs, h => congrArg or (replaceAll_congr cs h)
  | .not c, h => congrArg not (replace_congr c h)
  | .reference id, h => h id (by rw [referencedConditions_reference]; exact List.mem_singleton_self id)

theorem replaceAll_congr : ∀ cs : List Condition, (∀ id ∈ referencedInAll cs, f id = g id) →
    replaceAll f cs = replaceAll g cs
  | [], _ => rfl
  | c :: cs, h => by
    rw [referencedInAll_cons] at h
    rw [replaceAll, replaceAll, replace_congr c fun id hid => h id (List.mem_append_left _ hid),
      replaceAll_congr cs fun id hid => h id (List.mem_append_right _ hid)]

end

mutual

theorem replace_reference : ∀ c : Condition, c.replace reference = c
  | .leaf _ | .reference _ => rfl
  | .and cs => congrArg and (replaceAll_reference cs)
  | .or cs => congrArg or (replaceAll_reference cs)
  | .not c => congrArg not (replace_reference c)

theorem replaceAll_reference : ∀ cs : List Condition, replaceAll reference cs = cs
  | [] => rfl
  | c :: cs => by rw [replaceAll, replace_reference c, replaceAll_reference cs]

end

end

section
variable {leaf : Leaf → Verdict} {refer refer' : Int → Judgement} {f : Int → Condition}

mutual

/-- It comes to the same whether a reference says what a condition says, or the condition stands in its place. -/
theorem judgementWith_replace : ∀ c : Condition,
    (∀ id ∈ c.referencedConditions, refer id = (f id).judgementWith leaf refer') →
      c.judgementWith leaf refer = (c.replace f).judgementWith leaf refer'
  | .leaf _, _ => rfl
  | .and cs, h => judgementAll_replace cs h
  | .or cs, h => judgementAny_replace cs h
  | .not c, h => congrArg Judgement.negate (judgementWith_replace c h)
  | .reference id, h => h id (List.mem_singleton_self id)

theorem judgementAll_replace : ∀ cs : List Condition,
    (∀ id ∈ referencedInAll cs, refer id = (f id).judgementWith leaf refer') →
      judgementAll leaf refer cs = judgementAll leaf refer' (replaceAll f cs)
  | [], _ => rfl
  | c :: cs, h => by
    rw [referencedInAll_cons] at h
    rw [replaceAll, judgementAll_cons, judgementAll_cons,
      judgementWith_replace c fun id hid => h id (List.mem_append_left _ hid),
      judgementAll_replace cs fun id hid => h id (List.mem_append_right _ hid)]

theorem judgementAny_replace : ∀ cs : List Condition,
    (∀ id ∈ referencedInAll cs, refer id = (f id).judgementWith leaf refer') →
      judgementAny leaf refer cs = judgementAny leaf refer' (replaceAll f cs)
  | [], _ => rfl
  | c :: cs, h => by
    rw [referencedInAll_cons] at h
    rw [replaceAll, judgementAny_cons, judgementAny_cons,
      judgementWith_replace c fun id hid => h id (List.mem_append_left _ hid),
      judgementAny_replace cs fun id hid => h id (List.mem_append_right _ hid)]

end

end

/-- References that follow each other: the first one stands in the condition, and each further one in the
shared condition that the reference before it names. -/
inductive Chain (s : Snapshot) : Condition → List Int → Prop where
  | last {c : Condition} {id : Int} (h : id ∈ c.referencedConditions) : Chain s c [id]
  | cons {c target : Condition} {id : Int} {ids : List Int} (h : id ∈ c.referencedConditions)
      (ht : s.condition? id = some target) : Chain s target ids → Chain s c (id :: ids)

def ChainsWithin (s : Snapshot) (k : Nat) (c : Condition) : Prop :=
  ∀ ids, Chain s c ids → ids.length ≤ k

variable {s : Snapshot} {c t : Condition} {k : Nat}

theorem chainsWithin_of_no_references (h : c.referencedConditions = []) : c.ChainsWithin s k := by
  intro ids hids
  cases hids with
  | last hid | cons hid =>
    rw [h] at hid
    cases hid

theorem chainsWithin_zero_iff : c.ChainsWithin s 0 ↔ c.referencedConditions = [] := by
  constructor
  · intro h
    apply List.eq_nil_iff_forall_not_mem.mpr
    intro id hid
    have hlen := h [id] (.last hid)
    simp at hlen
  · exact chainsWithin_of_no_references

theorem chainsWithin_succ_iff : c.ChainsWithin s (k + 1) ↔
    ∀ id ∈ c.referencedConditions, ∀ target, s.condition? id = some target →
      target.ChainsWithin s k := by
  constructor
  · intro h id hid target ht ids hids
    have hlen := h (id :: ids) (.cons hid ht hids)
    rw [List.length_cons] at hlen
    omega
  · intro h ids hids
    cases hids with
    | last => simp
    | cons hid ht hrest =>
      have hlen := h _ hid _ ht _ hrest
      rw [List.length_cons]
      omega

/-- The condition with, in the place of each reference, what the shared condition that it names expands to. A
reference that names none stays as it is. -/
inductive Expands (s : Snapshot) : Condition → Condition → Prop where
  | replace {c : Condition} (f : Int → Condition)
      (named : ∀ id ∈ c.referencedConditions, ∀ target, s.condition? id = some target →
        Expands s target (f id))
      (missing : ∀ id ∈ c.referencedConditions, s.condition? id = none → f id = .reference id) :
      Expands s c (c.replace f)

namespace Expands

theorem unique {u : Condition} (ht : Expands s c t) (hu : Expands s c u) : t = u := by
  induction ht generalizing u with
  | @replace c f _ missing ih =>
    cases hu with
    | replace g named' missing' =>
      apply replace_congr
      intro id hid
      cases hs : s.condition? id with
      | none => rw [missing id hid hs, missing' id hid hs]
      | some target => exact ih id hid target hs (named' id hid target hs)

theorem condition?_eq_none (h : Expands s c t) : ∀ id ∈ t.referencedConditions, s.condition? id = none := by
  induction h with
  | @replace c f _ missing ih =>
    intro id hid
    rw [referencedConditions_replace] at hid
    obtain ⟨j, hj, hid⟩ := List.mem_flatMap.mp hid
    cases hs : s.condition? j with
    | none =>
      rw [missing j hj hs] at hid
      obtain rfl := List.mem_singleton.mp hid
      exact hs
    | some target => exact ih j hj target hs id hid

theorem referencedConditions_eq_nil (hclosed : s.Closed) (h : Expands s c t) (hc : s.Covers c) :
    t.referencedConditions = [] := by
  induction h with
  | @replace c f _ _ ih =>
    rw [referencedConditions_replace, List.flatMap_eq_nil_iff]
    intro id hid
    obtain ⟨shared, hshared, rfl⟩ := Index.contains_iff.mp (hc.conditions id hid)
    have hs : s.condition? shared.id = some shared.condition := by
      rw [Snapshot.condition?, Index.get?_eq_some_iff.mpr ⟨hshared, rfl⟩, Option.map_some]
    exact ih shared.id hid shared.condition hs (hclosed.sharedConditions shared hshared)

theorem self (h : ∀ id ∈ c.referencedConditions, s.condition? id = none) : Expands s c c := by
  have hself : Expands s c (c.replace reference) := by
    refine .replace reference (fun id hid target ht => ?_) fun _ _ _ => rfl
    rw [h id hid] at ht
    cases ht
  rwa [replace_reference] at hself

theorem chainsWithin (h : Expands s c t) (hk : c.ChainsWithin s k) : t.ChainsWithin s k := by
  cases k with
  | zero =>
    rw [chainsWithin_zero_iff] at hk ⊢
    cases h with
    | replace f => rw [referencedConditions_replace, hk, List.flatMap_nil]
  | succ k =>
    rw [chainsWithin_succ_iff]
    intro id hid target ht
    rw [h.condition?_eq_none id hid] at ht
    cases ht

end Expands

/-- A condition without overlong chains of references expands: by induction on the length of the chains. -/
theorem exists_expands (hk : c.ChainsWithin s k) : ∃ t, Expands s c t := by
  induction k generalizing c with
  | zero =>
    rw [chainsWithin_zero_iff] at hk
    refine ⟨c, .self fun id hid => ?_⟩
    rw [hk] at hid
    cases hid
  | succ k ih =>
    rw [chainsWithin_succ_iff] at hk
    have hpart : ∀ id, ∃ t, id ∈ c.referencedConditions →
        (∀ target, s.condition? id = some target → Expands s target t) ∧
          (s.condition? id = none → t = .reference id) := by
      intro id
      by_cases hid : id ∈ c.referencedConditions
      · cases hs : s.condition? id with
        | none => exact ⟨.reference id, fun _ => ⟨fun _ h => (nomatch h), fun _ => rfl⟩⟩
        | some target =>
          obtain ⟨t, ht⟩ := ih (hk id hid target hs)
          refine ⟨t, fun _ => ⟨fun target' h => ?_, fun h => nomatch h⟩⟩
          obtain rfl := Option.some.inj h
          exact ht
      · exact ⟨c, fun h => absurd h hid⟩
    choose f hf using hpart
    exact ⟨c.replace f, .replace f (fun id hid => (hf id hid).1) fun id hid => (hf id hid).2⟩

section
variable {leaf : Leaf → Verdict} {limit : Nat}

def notFound (id : Int) : Verdict := .fault (.conditionNotFound id)

theorem judgementAt_expanded (h : Expands s c t) (hk : c.ChainsWithin s k) :
    c.judgementAt leaf s limit k = t.judgementWith leaf fun id => .fault (.conditionNotFound id) := by
  induction h generalizing k with
  | @replace c f _ missing ih =>
    rw [judgementAt_eq]
    apply judgementWith_replace
    intro id hid
    cases k with
    | zero =>
      rw [chainsWithin_zero_iff.mp hk] at hid
      cases hid
    | succ k =>
      simp only [told]
      cases hs : s.condition? id with
      | none =>
        rw [missing id hid hs]
        rfl
      | some target => exact ih id hid target hs (chainsWithin_succ_iff.mp hk id hid target hs)

theorem evaluateAt_expanded (h : Expands s c t) (hk : c.ChainsWithin s k) :
    c.evaluateAt leaf s limit k = t.evaluateWith leaf notFound :=
  congrArg Judgement.verdict (judgementAt_expanded h hk)

theorem askedAt_expanded (h : Expands s c t) (hk : c.ChainsWithin s k) :
    c.askedAt leaf s limit k = t.askedWith leaf notFound fun _ => [] :=
  congrArg Judgement.asked (judgementAt_expanded h hk)

end

/-- Where no chain of references is longer than the limit, a condition expands to one tree, which says the
same for every document and every evaluator of leaves, and asks the same leaves. If all references lead
somewhere, the tree has none. -/
theorem evaluate_expanded {config : Configuration} {persisted : Option Instant}
    (hs : Snapshot.build config persisted = .ok s) (hk : c.ChainsWithin s k) :
    ∃ t, (∀ u, Expands s c u ↔ u = t) ∧ (s.Covers c → t.referencedConditions = []) ∧
      ∀ leaf : Leaf → Verdict,
        c.evaluate leaf s k = t.evaluate leaf s k ∧ c.asked leaf s k = t.asked leaf s k := by
  have hclosed : s.Closed := (Snapshot.build_eq_ok_iff.mp hs).closed
  obtain ⟨t, ht⟩ := exists_expands hk
  have hself : Expands s t t := .self ht.condition?_eq_none
  have hk' : t.ChainsWithin s k := ht.chainsWithin hk
  refine ⟨t, fun u => ?_, ht.referencedConditions_eq_nil hclosed, fun leaf => ⟨?_, ?_⟩⟩
  · constructor
    · exact fun hu => hu.unique ht
    · rintro rfl
      exact ht
  · exact (evaluateAt_expanded ht hk).trans (evaluateAt_expanded hself hk').symm
  · exact (askedAt_expanded ht hk).trans (askedAt_expanded hself hk').symm

def titles : Configuration where
  conditions := [⟨1, "titled", .leaf ⟨"title", .present⟩⟩, ⟨2, "untitled", .not (.reference 1)⟩]

def titleReferences : Condition := .and [.reference 2, .or [.reference 1, .reference 2]]

theorem evaluate_expanded_of_titles :
    ∃ s, Snapshot.build titles none = .ok s ∧ titleReferences.ChainsWithin s 2 ∧ s.Covers titleReferences ∧
      ∃ t, (∀ u, Expands s titleReferences u ↔ u = t) ∧ t.referencedConditions = [] ∧
        ∀ leaf : Leaf → Verdict, titleReferences.evaluate leaf s 2 = t.evaluate leaf s 2 ∧
          titleReferences.asked leaf s 2 = t.asked leaf s 2 := by
  obtain ⟨s, hs, h1, h2, hcovers⟩ : ∃ s, Snapshot.build titles none = .ok s ∧
      s.condition? 1 = some (.leaf ⟨"title", .present⟩) ∧ s.condition? 2 = some (.not (.reference 1)) ∧
      s.Covers titleReferences := ⟨_, rfl, rfl, rfl, by decide, by decide⟩
  have hfirst : ∀ k, ∀ target, s.condition? 1 = some target → target.ChainsWithin s k := by
    intro k target ht
    obtain rfl := Option.some.inj (h1.symm.trans ht)
    exact chainsWithin_of_no_references rfl
  have hsecond : ∀ target, s.condition? 2 = some target → target.ChainsWithin s 1 := by
    intro target ht
    obtain rfl := Option.some.inj (h2.symm.trans ht)
    refine chainsWithin_succ_iff.mpr fun id hid => ?_
    obtain rfl := List.mem_singleton.mp hid
    exact hfirst 0
  have hk : titleReferences.ChainsWithin s 2 := by
    refine chainsWithin_succ_iff.mpr fun id hid => ?_
    have hid : id ∈ [(2 : Int), 1, 2] := hid
    simp only [List.mem_cons, List.not_mem_nil, or_false] at hid
    rcases hid with rfl | rfl | rfl
    · exact hsecond
    · exact hfirst 1
    · exact hsecond
  obtain ⟨t, ht, hfree, hsame⟩ := evaluate_expanded hs hk
  exact ⟨s, hs, hk, hcovers, t, ht, hfree hcovers, hsame⟩

end Filing.Condition
