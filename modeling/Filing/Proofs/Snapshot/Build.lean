import Filing.Proofs.Index
import Filing.Snapshot

/-!
# Which configurations build

`Snapshot.build` succeeds exactly when no identifier comes twice in its list and every reference leads
somewhere. The snapshot then holds the items of the configuration, and is closed under all references.
-/

namespace Filing

theorem except_bind_eq_ok {ε α β : Type} {x : Except ε α} {f : α → Except ε β} {b : β} :
    (x >>= f) = .ok b ↔ ∃ a, x = .ok a ∧ f a = .ok b := by
  cases x <;> simp [bind, Except.bind]

namespace Snapshot

structure Covers (s : Snapshot) (c : Condition) : Prop where
  conditions : ∀ id ∈ c.referencedConditions, s.conditions.contains id = true
  lexicons : ∀ id ∈ c.referencedLexicons, s.lexicons.contains id = true

structure CoversEntry (s : Snapshot) (e : Entry) : Prop where
  collections : ∀ id ∈ e.collectionIds.items, s.collections.contains id = true
  default : ∀ id, e.defaultCollectionId = some id → id ∈ e.collectionIds.items

structure Closed (s : Snapshot) : Prop where
  entries : ∀ q ∈ s.sequences.items, ∀ e ∈ q.entries, s.CoversEntry e
  collectionPolicies : ∀ c ∈ s.collections.items, ∀ id ∈ c.policyIds.items,
    s.policies.contains id = true
  collectionConditions : ∀ c ∈ s.collections.items, s.Covers c.condition
  sharedConditions : ∀ c ∈ s.conditions.items, s.Covers c.condition
  policyTypes : ∀ p ∈ s.policies.items, s.policyTypes.contains p.typeId = true

theorem filter_not_eq_nil_iff {α : Type} {p : α → Bool} {xs : List α} :
    xs.filter (fun x => !p x) = [] ↔ ∀ x ∈ xs, p x = true := by
  simp [List.filter_eq_nil_iff]

theorem conditionFaults_eq_nil_iff {s : Snapshot} {owner : String} {c : Condition} :
    s.conditionFaults owner c = [] ↔ s.Covers c := by
  simp only [conditionFaults, List.append_eq_nil_iff, List.map_eq_nil_iff, filter_not_eq_nil_iff]
  constructor
  · rintro ⟨hconditions, hlexicons⟩
    exact ⟨hconditions, hlexicons⟩
  · exact fun h => ⟨h.conditions, h.lexicons⟩

theorem entryFaults_eq_nil_iff {s : Snapshot} {q : Sequence} {e : Entry} :
    s.entryFaults q e = [] ↔ s.CoversEntry e := by
  simp only [entryFaults, List.append_eq_nil_iff, List.map_eq_nil_iff, filter_not_eq_nil_iff,
    Option.mem_toList, Index.contains_iff_mem]
  constructor
  · rintro ⟨hcollections, hdefault⟩
    exact ⟨hcollections, hdefault⟩
  · exact fun h => ⟨h.collections, h.default⟩

theorem collectionFaults_eq_nil_iff {s : Snapshot} {c : Collection} :
    s.collectionFaults c = [] ↔
      (∀ id ∈ c.policyIds.items, s.policies.contains id = true) ∧ s.Covers c.condition := by
  simp only [collectionFaults, List.append_eq_nil_iff, List.map_eq_nil_iff, filter_not_eq_nil_iff,
    conditionFaults_eq_nil_iff]

theorem faults_eq_nil_iff {s : Snapshot} : s.faults = [] ↔ s.Closed := by
  simp only [faults, List.append_eq_nil_iff, List.map_eq_nil_iff, List.flatMap_eq_nil_iff,
    filter_not_eq_nil_iff, entryFaults_eq_nil_iff, collectionFaults_eq_nil_iff,
    conditionFaults_eq_nil_iff]
  constructor
  · rintro ⟨⟨⟨he, hc⟩, hs⟩, hp⟩
    exact ⟨he, fun c hm => (hc c hm).1, fun c hm => (hc c hm).2, hs, hp⟩
  · intro h
    exact ⟨⟨⟨h.entries, fun c hm => ⟨h.collectionPolicies c hm, h.collectionConditions c hm⟩⟩,
      h.sharedConditions⟩, h.policyTypes⟩

/-- A closed snapshot with the items of a configuration. -/
structure Of (c : Configuration) (persisted : Option Instant) (s : Snapshot) : Prop where
  fingerprint : c.fingerprint = s.fingerprint
  persisted : persisted = s.persisted
  lastModified : c.lastModified = s.lastModified
  sequences : Index.ofDistinct (c.sequences.map arrange) = .ok s.sequences
  collections : Index.ofDistinct c.collections = .ok s.collections
  conditions : Index.ofDistinct c.conditions = .ok s.conditions
  fieldLabels : Index.ofDistinct c.fieldLabels = .ok s.fieldLabels
  lexicons : Index.ofDistinct c.lexicons = .ok s.lexicons
  policies : Index.ofDistinct c.policies = .ok s.policies
  policyTypes : Index.ofDistinct c.policyTypes = .ok s.policyTypes
  closed : s.Closed

theorem index_eq_ok_iff {α κ : Type} [LT κ] [DecidableLT κ] [KeyOrder κ] {key : α → κ}
    {what : String} {shown : κ → String} {items : List α} {s : Index key} :
    index key what shown items = .ok s ↔ Index.ofDistinct items = .ok s := by
  unfold index
  cases (Index.ofDistinct items : Except κ (Index key)) with
  | ok t => simp
  | error k => simp

theorem build_eq_ok_iff {c : Configuration} {persisted : Option Instant} {s : Snapshot} :
    build c persisted = .ok s ↔ Of c persisted s := by
  simp only [build, except_bind_eq_ok, index_eq_ok_iff]
  constructor
  · rintro ⟨_, h1, _, h2, _, h3, _, h4, _, h5, _, h6, _, h7, h⟩
    split at h
    · rename_i hf
      cases h
      exact ⟨rfl, rfl, rfl, h1, h2, h3, h4, h5, h6, h7, faults_eq_nil_iff.mp hf⟩
    · cases h
  · intro h
    refine ⟨_, h.sequences, _, h.collections, _, h.conditions, _, h.fieldLabels, _, h.lexicons, _,
      h.policies, _, h.policyTypes, ?_⟩
    rw [h.fingerprint, h.persisted, h.lastModified]
    simp only [faults_eq_nil_iff.mpr h.closed]

end Snapshot

namespace Configuration

structure Distinct (c : Configuration) : Prop where
  sequences : (c.sequences.map Sequence.id).Nodup
  collections : (c.collections.map Collection.id).Nodup
  conditions : (c.conditions.map SharedCondition.id).Nodup
  fieldLabels : (c.fieldLabels.map FieldLabel.name).Nodup
  lexicons : (c.lexicons.map Lexicon.id).Nodup
  policies : (c.policies.map Policy.id).Nodup
  policyTypes : (c.policyTypes.map PolicyType.id).Nodup

structure Covers (c : Configuration) (x : Condition) : Prop where
  conditions : ∀ id ∈ x.referencedConditions, id ∈ c.conditions.map SharedCondition.id
  lexicons : ∀ id ∈ x.referencedLexicons, id ∈ c.lexicons.map Lexicon.id

structure Sound (c : Configuration) : Prop extends Distinct c where
  entryCollections : ∀ q ∈ c.sequences, ∀ e ∈ q.entries, ∀ id ∈ e.collectionIds.items,
    id ∈ c.collections.map Collection.id
  entryDefaults : ∀ q ∈ c.sequences, ∀ e ∈ q.entries, ∀ id, e.defaultCollectionId = some id →
    id ∈ e.collectionIds.items
  collectionPolicies : ∀ k ∈ c.collections, ∀ id ∈ k.policyIds.items, id ∈ c.policies.map Policy.id
  collectionConditions : ∀ k ∈ c.collections, c.Covers k.condition
  sharedConditions : ∀ k ∈ c.conditions, c.Covers k.condition
  typedPolicies : ∀ p ∈ c.policies, p.typeId ∈ c.policyTypes.map PolicyType.id

end Configuration

namespace Snapshot

theorem map_arrange_ids (sequences : List Sequence) :
    (sequences.map arrange).map Sequence.id = sequences.map Sequence.id := by
  rw [List.map_map]
  rfl

variable {c : Configuration} {persisted : Option Instant} {s : Snapshot}

theorem sequence?_of_built (hs : build c persisted = .ok s) {q : Sequence} (hq : q ∈ c.sequences) :
    s.sequence? q.id = some (arrange q) := by
  have hitems := (Index.ofDistinct_eq_ok_iff.mp (build_eq_ok_iff.mp hs).sequences).2 (arrange q)
  apply Index.get?_eq_some_iff.mpr
  constructor
  · exact hitems.mpr (List.mem_map_of_mem hq)
  · rfl

theorem sound_iff_closed (hd : c.Distinct)
    (hsequences : Index.ofDistinct (c.sequences.map arrange) = .ok s.sequences)
    (hcollections : Index.ofDistinct c.collections = .ok s.collections)
    (hconditions : Index.ofDistinct c.conditions = .ok s.conditions)
    (hlexicons : Index.ofDistinct c.lexicons = .ok s.lexicons)
    (hpolicies : Index.ofDistinct c.policies = .ok s.policies)
    (hpolicyTypes : Index.ofDistinct c.policyTypes = .ok s.policyTypes) : c.Sound ↔ s.Closed := by
  have hcovers (x : Condition) : c.Covers x ↔ s.Covers x := by
    constructor
    · intro h
      exact ⟨fun id hid => (Index.contains_ofDistinct hconditions).mpr (h.conditions id hid),
        fun id hid => (Index.contains_ofDistinct hlexicons).mpr (h.lexicons id hid)⟩
    · intro h
      exact ⟨fun id hid => (Index.contains_ofDistinct hconditions).mp (h.conditions id hid),
        fun id hid => (Index.contains_ofDistinct hlexicons).mp (h.lexicons id hid)⟩
  have hcm (k : Collection) := (Index.ofDistinct_eq_ok_iff.mp hcollections).2 k
  have hsm (k : SharedCondition) := (Index.ofDistinct_eq_ok_iff.mp hconditions).2 k
  have hpm (p : Policy) := (Index.ofDistinct_eq_ok_iff.mp hpolicies).2 p
  have hqm (q : Sequence) := (Index.ofDistinct_eq_ok_iff.mp hsequences).2 q
  constructor
  · intro h
    refine ⟨fun q hq e he => ?_, fun k hk id hid => ?_, fun k hk => ?_, fun k hk => ?_, fun p hp => ?_⟩
    · obtain ⟨r, hr, rfl⟩ := List.mem_map.mp ((hqm q).mp hq)
      have he' : e ∈ r.entries := mem_sortOn.mp he
      exact ⟨fun id hid =>
          (Index.contains_ofDistinct hcollections).mpr (h.entryCollections r hr e he' id hid),
        h.entryDefaults r hr e he'⟩
    · exact (Index.contains_ofDistinct hpolicies).mpr (h.collectionPolicies k ((hcm k).mp hk) id hid)
    · exact (hcovers _).mp (h.collectionConditions k ((hcm k).mp hk))
    · exact (hcovers _).mp (h.sharedConditions k ((hsm k).mp hk))
    · exact (Index.contains_ofDistinct hpolicyTypes).mpr (h.typedPolicies p ((hpm p).mp hp))
  · intro h
    have hentry (q : Sequence) (hq : q ∈ c.sequences) (e : Entry) (he : e ∈ q.entries) :
        s.CoversEntry e :=
      h.entries (arrange q) ((hqm _).mpr (List.mem_map_of_mem hq)) e (mem_sortOn.mpr he)
    refine ⟨hd, fun q hq e he id hid => ?_, fun q hq e he => (hentry q hq e he).default,
      fun k hk id hid => ?_, fun k hk => ?_, fun k hk => ?_, fun p hp => ?_⟩
    · exact (Index.contains_ofDistinct hcollections).mp ((hentry q hq e he).collections id hid)
    · exact (Index.contains_ofDistinct hpolicies).mp (h.collectionPolicies k ((hcm k).mpr hk) id hid)
    · exact (hcovers _).mpr (h.collectionConditions k ((hcm k).mpr hk))
    · exact (hcovers _).mpr (h.sharedConditions k ((hsm k).mpr hk))
    · exact (Index.contains_ofDistinct hpolicyTypes).mp (h.policyTypes p ((hpm p).mpr hp))

theorem Of.sound (h : Of c persisted s) : c.Sound := by
  have distinct {α κ : Type} [LT κ] [DecidableLT κ] [KeyOrder κ] {key : α → κ} {xs : List α}
      {t : Index key} (ht : Index.ofDistinct xs = .ok t) : (xs.map key).Nodup :=
    (Index.ofDistinct_eq_ok_iff.mp ht).1
  refine (sound_iff_closed ?_ h.sequences h.collections h.conditions h.lexicons h.policies
    h.policyTypes).mpr h.closed
  have hsequences := distinct h.sequences
  rw [map_arrange_ids] at hsequences
  exact ⟨hsequences, distinct h.collections, distinct h.conditions, distinct h.fieldLabels,
    distinct h.lexicons, distinct h.policies, distinct h.policyTypes⟩

/-- A configuration builds exactly when it is sound. -/
theorem exists_build_iff : (∃ s, build c persisted = .ok s) ↔ c.Sound := by
  simp only [build_eq_ok_iff]
  constructor
  · rintro ⟨_, h⟩
    exact h.sound
  · intro h
    have hd := h.toDistinct
    have hsequences := hd.sequences
    rw [← map_arrange_ids] at hsequences
    obtain ⟨sequences, h1⟩ := Index.exists_ofDistinct hsequences
    obtain ⟨collections, h2⟩ := Index.exists_ofDistinct hd.collections
    obtain ⟨conditions, h3⟩ := Index.exists_ofDistinct hd.conditions
    obtain ⟨fieldLabels, h4⟩ := Index.exists_ofDistinct hd.fieldLabels
    obtain ⟨lexicons, h5⟩ := Index.exists_ofDistinct hd.lexicons
    obtain ⟨policies, h6⟩ := Index.exists_ofDistinct hd.policies
    obtain ⟨policyTypes, h7⟩ := Index.exists_ofDistinct hd.policyTypes
    let s : Snapshot := ⟨c.fingerprint, persisted, c.lastModified, sequences, collections, conditions,
      fieldLabels, lexicons, policies, policyTypes⟩
    exact ⟨s, rfl, rfl, rfl, h1, h2, h3, h4, h5, h6, h7,
      (sound_iff_closed (s := s) hd h1 h2 h3 h5 h6 h7).mp h⟩

end Snapshot

end Filing
