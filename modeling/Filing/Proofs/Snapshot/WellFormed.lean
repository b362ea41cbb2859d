import Filing.Proofs.Condition.Parts
import Filing.Proofs.Snapshot.Rearranged

/-!
# Well-formed configurations

A configuration is well-formed when no identifier comes twice in its list and every identifier that is
referred to names an item, also where the reference stands deep inside of a condition. Exactly the
well-formed configurations build. What is then found under an identifier is the item that was written with
it, where the entries of a sequence have been put in order. Any other configuration is a fault of its own
kind.
-/

namespace Filing

namespace Configuration

inductive States (c : Configuration) : Condition → Prop where
  | collection {k : Collection} (hk : k ∈ c.collections) : States c k.condition
  | shared {k : SharedCondition} (hk : k ∈ c.conditions) : States c k.condition

/-- No identifier comes twice in its list, and each one that is referred to names an item. -/
structure WellFormed (c : Configuration) : Prop extends Distinct c where
  entryCollections : ∀ q ∈ c.sequences, ∀ e ∈ q.entries, ∀ id ∈ e.collectionIds.items,
    ∃ k ∈ c.collections, k.id = id
  entryDefaults : ∀ q ∈ c.sequences, ∀ e ∈ q.entries, ∀ id, e.defaultCollectionId = some id →
    id ∈ e.collectionIds.items
  collectionPolicies : ∀ k ∈ c.collections, ∀ id ∈ k.policyIds.items, ∃ p ∈ c.policies, p.id = id
  typedPolicies : ∀ p ∈ c.policies, ∃ t ∈ c.policyTypes, t.id = p.typeId
  references : ∀ x, c.States x → ∀ id, (Condition.reference id).PartOf x →
    ∃ k ∈ c.conditions, k.id = id
  lexiconLeaves : ∀ x, c.States x → ∀ field id wholeValue,
    (Condition.leaf ⟨field, .lexicon id wholeValue⟩).PartOf x → ∃ l ∈ c.lexicons, l.id = id

variable {c : Configuration}

theorem covers_iff {x : Condition} : c.Covers x ↔
    (∀ id, (Condition.reference id).PartOf x → ∃ k ∈ c.conditions, k.id = id) ∧
      ∀ field id wholeValue, (Condition.leaf ⟨field, .lexicon id wholeValue⟩).PartOf x →
        ∃ l ∈ c.lexicons, l.id = id := by
  constructor
  · intro h
    constructor
    · intro id hid
      exact List.mem_map.mp (h.conditions id (Condition.mem_referencedConditions.mpr hid))
    · intro field id wholeValue hleaf
      have hid := Condition.mem_referencedLexicons.mpr ⟨field, wholeValue, hleaf⟩
      exact List.mem_map.mp (h.lexicons id hid)
  · rintro ⟨hreferences, hleaves⟩
    constructor
    · intro id hid
      exact List.mem_map.mpr (hreferences id (Condition.mem_referencedConditions.mp hid))
    · intro id hid
      obtain ⟨field, wholeValue, hleaf⟩ := Condition.mem_referencedLexicons.mp hid
      exact List.mem_map.mpr (hleaves field id wholeValue hleaf)

theorem sound_iff_wellFormed : c.Sound ↔ c.WellFormed := by
  constructor
  · intro h
    have hcovers : ∀ x, c.States x → c.Covers x := by
      intro x hx
      cases hx with
      | collection hk => exact h.collectionConditions _ hk
      | shared hk => exact h.sharedConditions _ hk
    refine ⟨h.toDistinct, fun q hq e he id hid => ?_, h.entryDefaults, fun k hk id hid => ?_,
      fun p hp => ?_, fun x hx => ?_, fun x hx => ?_⟩
    · exact List.mem_map.mp (h.entryCollections q hq e he id hid)
    · exact List.mem_map.mp (h.collectionPolicies k hk id hid)
    · exact List.mem_map.mp (h.typedPolicies p hp)
    · exact (covers_iff.mp (hcovers x hx)).1
    · exact (covers_iff.mp (hcovers x hx)).2
  · intro h
    have hcovers : ∀ x, c.States x → c.Covers x := by
      intro x hx
      exact covers_iff.mpr ⟨h.references x hx, h.lexiconLeaves x hx⟩
    refine ⟨h.toDistinct, fun q hq e he id hid => ?_, h.entryDefaults, fun k hk id hid => ?_,
      fun k hk => hcovers _ (.collection hk), fun k hk => hcovers _ (.shared hk), fun p hp => ?_⟩
    · exact List.mem_map.mpr (h.entryCollections q hq e he id hid)
    · exact List.mem_map.mpr (h.collectionPolicies k hk id hid)
    · exact List.mem_map.mpr (h.typedPolicies p hp)

end Configuration

/-- The sequence with its entries in ascending order, those with the same order number as they were. -/
structure Sequence.Ordered (q r : Sequence) : Prop extends Sequence.Rearranged q r where
  ascending : r.entries.Pairwise fun e f => e.order ≤ f.order

theorem Sequence.ordered_iff {q r : Sequence} : q.Ordered r ↔ r = Snapshot.arrange q := by
  constructor
  · intro h
    have hr : sortOn Entry.order r.entries = r.entries :=
      sortOn_of_ordered (h.ascending.imp Int.not_lt.mpr)
    calc r = Snapshot.arrange r := by rw [Snapshot.arrange, hr]
      _ = Snapshot.arrange q := h.toRearranged.arrange_eq.symm
  · rintro rfl
    exact ⟨q.rearranged_arrange, q.entries_arrange_ascending⟩

namespace Snapshot

structure Lists (s : Snapshot) (c : Configuration) : Prop where
  sequences : ∀ id r, s.sequence? id = some r ↔ ∃ q ∈ c.sequences, q.id = id ∧ q.Ordered r
  collections : ∀ id k, s.collection? id = some k ↔ k ∈ c.collections ∧ k.id = id
  conditions : ∀ id x, s.condition? id = some x ↔ ∃ k ∈ c.conditions, k.id = id ∧ k.condition = x
  fieldLabels : ∀ name l, s.fieldLabel? name = some l ↔ l ∈ c.fieldLabels ∧ l.name = name
  lexicons : ∀ id l, s.lexicon? id = some l ↔ l ∈ c.lexicons ∧ l.id = id
  policies : ∀ id p, s.policy? id = some p ↔ p ∈ c.policies ∧ p.id = id
  policyTypes : ∀ id t, s.policyType? id = some t ↔ t ∈ c.policyTypes ∧ t.id = id

variable {c : Configuration} {persisted : Option Instant} {s : Snapshot}

theorem get?_ofDistinct {α κ : Type} [LT κ] [DecidableLT κ] [KeyOrder κ] {key : α → κ} {xs : List α}
    {i : Index key} (h : Index.ofDistinct xs = .ok i) (k : κ) (x : α) :
    i.get? k = some x ↔ x ∈ xs ∧ key x = k := by
  rw [Index.get?_eq_some_iff, (Index.ofDistinct_eq_ok_iff.mp h).2]

theorem Of.lists (h : Of c persisted s) : s.Lists c := by
  constructor
  case sequences =>
    intro id r
    rw [sequence?, get?_ofDistinct h.sequences, List.mem_map]
    constructor
    · rintro ⟨⟨q, hq, rfl⟩, hid⟩
      exact ⟨q, hq, hid, Sequence.ordered_iff.mpr rfl⟩
    · rintro ⟨q, hq, hid, hr⟩
      obtain rfl := Sequence.ordered_iff.mp hr
      exact ⟨⟨q, hq, rfl⟩, hid⟩
  case conditions =>
    intro id x
    rw [condition?, Option.map_eq_some_iff]
    constructor
    · rintro ⟨k, hk, hx⟩
      obtain ⟨hk, hid⟩ := (get?_ofDistinct h.conditions id k).mp hk
      exact ⟨k, hk, hid, hx⟩
    · rintro ⟨k, hk, hid, hx⟩
      exact ⟨k, (get?_ofDistinct h.conditions id k).mpr ⟨hk, hid⟩, hx⟩
  case collections => exact get?_ofDistinct h.collections
  case fieldLabels => exact get?_ofDistinct h.fieldLabels
  case lexicons => exact get?_ofDistinct h.lexicons
  case policies => exact get?_ofDistinct h.policies
  case policyTypes => exact get?_ofDistinct h.policyTypes

theorem except_bind_eq_error {ε α β : Type} {x : Except ε α} {f : α → Except ε β} {e : ε} :
    (x >>= f) = .error e ↔ x = .error e ∨ ∃ a, x = .ok a ∧ f a = .error e := by
  cases x <;> simp [bind, Except.bind]

theorem config_of_index {α κ : Type} [LT κ] [DecidableLT κ] [KeyOrder κ] {key : α → κ}
    {what : String} {shown : κ → String} {items : List α} {e : Error}
    (h : index key what shown items = .error e) : ∃ fault, e = .config fault := by
  unfold index at h
  split at h
  · cases h
  · cases h
    exact ⟨_, rfl⟩

theorem config_of_build {e : Error} (h : build c persisted = .error e) : ∃ fault, e = .config fault := by
  simp only [build, except_bind_eq_error] at h
  rcases h with h | ⟨_, -, h | ⟨_, -, h | ⟨_, -, h | ⟨_, -, h | ⟨_, -, h | ⟨_, -, h | ⟨_, -, h⟩⟩⟩⟩⟩⟩⟩
  any_goals exact config_of_index h
  split at h
  · cases h
  · cases h
    exact ⟨_, rfl⟩

/-- Exactly the well-formed configurations build. The snapshot then lists the items of the configuration;
otherwise there is a fault of the configuration. -/
theorem exists_build_iff_wellFormed (c : Configuration) (persisted : Option Instant) :
    ((∃ s, build c persisted = .ok s) ↔ c.WellFormed) ∧
      (∀ s, build c persisted = .ok s → s.Lists c) ∧
      ∀ e, build c persisted = .error e → ∃ fault, e = .config fault := by
  refine ⟨?_, fun s hs => ?_, fun e he => config_of_build he⟩
  · rw [exists_build_iff, Configuration.sound_iff_wellFormed]
  · exact (build_eq_ok_iff.mp hs).lists

end Snapshot

end Filing
