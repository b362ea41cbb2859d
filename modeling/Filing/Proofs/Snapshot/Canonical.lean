import Filing.Proofs.Configuration.Content
import Filing.Proofs.Snapshot.Build

/-!
# Building from the canonical form

Whether a configuration builds is a matter of its canonical form, so of its fingerprint as long as digests
do not collide. What it builds is not: a number in a condition that is not finite leaves no trace in the
canonical form. Where all numbers are finite, equal canonical forms build equal snapshots, but for when
they were last modified.
-/

namespace Filing

namespace Condition

mutual

theorem walk_blurred : ∀ c : Condition, c.blurred.walk = c.walk.map blurred
  | .leaf _ | .reference _ => rfl
  | .and cs => by rw [blurred, walk, walk, walkAll_blurred cs, List.map_cons, blurred]
  | .or cs => by rw [blurred, walk, walk, walkAll_blurred cs, List.map_cons, blurred]
  | .not c => by rw [blurred, walk, walk, walk_blurred c, List.map_cons, blurred]

theorem walkAll_blurred : ∀ cs : List Condition, walkAll (blurredAll cs) = (walkAll cs).map blurred
  | [] => rfl
  | c :: cs => by rw [blurredAll, walkAll, walkAll, walk_blurred c, walkAll_blurred cs, List.map_append]

end

theorem referencedConditions_blurred (c : Condition) :
    c.blurred.referencedConditions = c.referencedConditions := by
  have hid (d : Condition) : d.blurred.referenceId? = d.referenceId? := by
    cases d <;> rfl
  simp only [referencedConditions, walk_blurred, List.filterMap_map, Function.comp_def, hid]

theorem referencedLexicons_blurred (c : Condition) :
    c.blurred.referencedLexicons = c.referencedLexicons := by
  have hid (d : Condition) : d.blurred.lexiconId? = d.lexiconId? := by
    cases d with
    | leaf l => rcases l with ⟨_, test⟩; cases test <;> rfl
    | _ => rfl
  simp only [referencedLexicons, walk_blurred, List.filterMap_map, Function.comp_def, hid]

end Condition

namespace Configuration
variable {c d : Configuration}

theorem keys_perm {α κ : Type} [LT κ] [DecidableLT κ] {key : α → κ} (f : α → α)
    (hf : ∀ x, key (f x) = key x) (xs : List α) :
    (((sortOn key xs).map f).map key).Perm (xs.map key) := by
  have hkeys : ((sortOn key xs).map f).map key = (sortOn key xs).map key := by
    rw [List.map_map]
    exact List.map_congr_left fun x _ => hf x
  rw [hkeys]
  exact (sortOn_perm key xs).map key

theorem sequenceIds_perm : (c.canonical.sequences.map Sequence.id).Perm (c.sequences.map Sequence.id) :=
  keys_perm Snapshot.arrange (fun _ => rfl) _

theorem collectionIds_perm :
    (c.canonical.collections.map Collection.id).Perm (c.collections.map Collection.id) :=
  keys_perm Collection.blurred (fun _ => rfl) _

theorem conditionIds_perm :
    (c.canonical.conditions.map SharedCondition.id).Perm (c.conditions.map SharedCondition.id) :=
  keys_perm SharedCondition.blurred (fun _ => rfl) _

theorem policyIds_perm : (c.canonical.policies.map Policy.id).Perm (c.policies.map Policy.id) :=
  keys_perm Policy.blurred (fun _ => rfl) _

theorem policyTypeIds_perm :
    (c.canonical.policyTypes.map PolicyType.id).Perm (c.policyTypes.map PolicyType.id) :=
  keys_perm PolicyType.blurred (fun _ => rfl) _

theorem lexiconIds_perm : (c.canonical.lexicons.map Lexicon.id).Perm (c.lexicons.map Lexicon.id) :=
  (sortOn_perm _ _).map _

theorem fieldLabelNames_perm :
    (c.canonical.fieldLabels.map FieldLabel.name).Perm (c.fieldLabels.map FieldLabel.name) :=
  (sortOn_perm _ _).map _

theorem distinct_canonical : c.canonical.Distinct ↔ c.Distinct := by
  constructor
  · intro h
    exact ⟨sequenceIds_perm.nodup_iff.mp h.sequences, collectionIds_perm.nodup_iff.mp h.collections,
      conditionIds_perm.nodup_iff.mp h.conditions, fieldLabelNames_perm.nodup_iff.mp h.fieldLabels,
      lexiconIds_perm.nodup_iff.mp h.lexicons, policyIds_perm.nodup_iff.mp h.policies,
      policyTypeIds_perm.nodup_iff.mp h.policyTypes⟩
  · intro h
    exact ⟨sequenceIds_perm.nodup_iff.mpr h.sequences, collectionIds_perm.nodup_iff.mpr h.collections,
      conditionIds_perm.nodup_iff.mpr h.conditions, fieldLabelNames_perm.nodup_iff.mpr h.fieldLabels,
      lexiconIds_perm.nodup_iff.mpr h.lexicons, policyIds_perm.nodup_iff.mpr h.policies,
      policyTypeIds_perm.nodup_iff.mpr h.policyTypes⟩

theorem covers_canonical {x : Condition} : c.canonical.Covers x.blurred ↔ c.Covers x := by
  constructor
  · rintro ⟨hc, hl⟩
    rw [Condition.referencedConditions_blurred] at hc
    rw [Condition.referencedLexicons_blurred] at hl
    exact ⟨fun id hid => conditionIds_perm.mem_iff.mp (hc id hid),
      fun id hid => lexiconIds_perm.mem_iff.mp (hl id hid)⟩
  · rintro ⟨hc, hl⟩
    refine ⟨?_, ?_⟩
    · rw [Condition.referencedConditions_blurred]
      exact fun id hid => conditionIds_perm.mem_iff.mpr (hc id hid)
    · rw [Condition.referencedLexicons_blurred]
      exact fun id hid => lexiconIds_perm.mem_iff.mpr (hl id hid)

theorem forall_mem_canonical {α κ : Type} [LT κ] [DecidableLT κ] {key : α → κ} {f : α → α} {xs : List α}
    {P : α → Prop} : (∀ y ∈ (sortOn key xs).map f, P y) ↔ ∀ x ∈ xs, P (f x) := by
  simp only [List.forall_mem_map, mem_sortOn]

theorem sound_canonical : c.canonical.Sound ↔ c.Sound := by
  constructor
  · intro h
    have hentries := forall_mem_canonical.mp h.entryCollections
    have hdefaults := forall_mem_canonical.mp h.entryDefaults
    have hpolicies := forall_mem_canonical.mp h.collectionPolicies
    have hconditions := forall_mem_canonical.mp h.collectionConditions
    have hshared := forall_mem_canonical.mp h.sharedConditions
    have htyped := forall_mem_canonical.mp h.typedPolicies
    refine ⟨distinct_canonical.mp h.toDistinct, fun q hq e he id hid => ?_, fun q hq e he => ?_,
      fun k hk id hid => ?_, fun k hk => covers_canonical.mp (hconditions k hk),
      fun k hk => covers_canonical.mp (hshared k hk), fun p hp => ?_⟩
    · exact collectionIds_perm.mem_iff.mp (hentries q hq e (mem_sortOn.mpr he) id hid)
    · exact hdefaults q hq e (mem_sortOn.mpr he)
    · exact policyIds_perm.mem_iff.mp (hpolicies k hk id hid)
    · exact policyTypeIds_perm.mem_iff.mp (htyped p hp)
  · intro h
    refine ⟨distinct_canonical.mpr h.toDistinct, forall_mem_canonical.mpr fun q hq e he id hid => ?_,
      forall_mem_canonical.mpr fun q hq e he => ?_, forall_mem_canonical.mpr fun k hk id hid => ?_,
      forall_mem_canonical.mpr fun k hk => covers_canonical.mpr (h.collectionConditions k hk),
      forall_mem_canonical.mpr fun k hk => covers_canonical.mpr (h.sharedConditions k hk),
      forall_mem_canonical.mpr fun p hp => ?_⟩
    · exact collectionIds_perm.mem_iff.mpr (h.entryCollections q hq e (mem_sortOn.mp he) id hid)
    · exact h.entryDefaults q hq e (mem_sortOn.mp he)
    · exact policyIds_perm.mem_iff.mpr (h.collectionPolicies k hk id hid)
    · exact policyTypeIds_perm.mem_iff.mpr (h.typedPolicies p hp)

theorem sound_iff_of_canonicalBytes (h : c.canonicalBytes = d.canonicalBytes) : c.Sound ↔ d.Sound := by
  rw [← sound_canonical, canonicalBytes_eq_iff.mp h, sound_canonical]

end Configuration

/-- Whether a configuration builds is a matter of its canonical bytes. -/
theorem Snapshot.exists_build_of_canonicalBytes {c d : Configuration} {persisted : Option Instant}
    (h : c.canonicalBytes = d.canonicalBytes) (hc : ∃ s, Snapshot.build c persisted = .ok s) :
    ∃ t, Snapshot.build d persisted = .ok t :=
  exists_build_iff.mpr ((Configuration.sound_iff_of_canonicalBytes h).mp (exists_build_iff.mp hc))

namespace Snapshot

def dated (s : Snapshot) (lastModified : Option Instant) : Snapshot := { s with lastModified }

def checked (s : Snapshot) : Except Error Snapshot :=
  match s.faults with
  | [] => .ok s
  | fault :: _ => .error (.config fault)

variable {c d : Configuration} {persisted : Option Instant} {s t : Snapshot}

theorem checked_dated (modified : Option Instant) :
    (s.dated modified).checked = s.checked.map fun s => s.dated modified := by
  have hfaults : (s.dated modified).faults = s.faults := rfl
  unfold checked
  rw [hfaults]
  cases s.faults <;> rfl

/-- Lists that sort alike, with no key twice, give the same index. -/
theorem exists_index_both {α κ : Type} [LT κ] [DecidableLT κ] [KeyOrder κ] {key : α → κ} (what : String)
    (shown : κ → String) {xs ys : List α} (hn : (xs.map key).Nodup) (h : sortOn key xs = sortOn key ys) :
    ∃ i, index key what shown xs = .ok i ∧ index key what shown ys = .ok i := by
  obtain ⟨i, hi⟩ := Index.exists_ofDistinct hn
  have hj : Index.ofDistinct ys = .ok i := by
    rw [← Index.ofDistinct_congr hn h]
    exact hi
  exact ⟨i, index_eq_ok_iff.mpr hi, index_eq_ok_iff.mpr hj⟩

theorem lexicons_eq_of_canonicalBytes {stored : Option Instant} (hs : build c persisted = .ok s)
    (ht : build d stored = .ok t) (h : c.canonicalBytes = d.canonicalBytes) : s.lexicons = t.lexicons := by
  have hlexicons : sortOn Lexicon.id c.lexicons = sortOn Lexicon.id d.lexicons :=
    congrArg Configuration.lexicons (Configuration.canonicalBytes_eq_iff.mp h)
  have hleft := (build_eq_ok_iff.mp hs).lexicons
  have hright := (build_eq_ok_iff.mp ht).lexicons
  rw [Index.ofDistinct_congr (Index.ofDistinct_eq_ok_iff.mp hleft).1 hlexicons, hright] at hleft
  exact (Except.ok.inj hleft).symm

theorem build_eq_of_arranged (hc : c.Distinct) (h : c.arranged = d.arranged) (persisted : Option Instant) :
    build c persisted = (build d persisted).map fun s => s.dated c.lastModified := by
  have hfingerprint := Configuration.fingerprint_eq_of_arranged h
  have hsequences : sortOn Sequence.id (c.sequences.map arrange) =
      sortOn Sequence.id (d.sequences.map arrange) := by
    rw [sortOn_map fun _ => rfl, sortOn_map fun _ => rfl]
    exact congrArg Configuration.sequences h
  have hids : ((c.sequences.map arrange).map Sequence.id).Nodup := by
    rw [map_arrange_ids]
    exact hc.sequences
  obtain ⟨sequences, h1, h1'⟩ := exists_index_both "collection sequence" intText hids hsequences
  obtain ⟨collections, h2, h2'⟩ :=
    exists_index_both "collection" intText hc.collections (congrArg Configuration.collections h)
  obtain ⟨conditions, h3, h3'⟩ :=
    exists_index_both "condition" intText hc.conditions (congrArg Configuration.conditions h)
  obtain ⟨fieldLabels, h4, h4'⟩ :=
    exists_index_both "field label" Text.quoted hc.fieldLabels (congrArg Configuration.fieldLabels h)
  obtain ⟨lexicons, h5, h5'⟩ :=
    exists_index_both "lexicon" intText hc.lexicons (congrArg Configuration.lexicons h)
  obtain ⟨policies, h6, h6'⟩ :=
    exists_index_both "policy" intText hc.policies (congrArg Configuration.policies h)
  obtain ⟨policyTypes, h7, h7'⟩ :=
    exists_index_both "policy type" intText hc.policyTypes (congrArg Configuration.policyTypes h)
  let s : Snapshot := ⟨d.fingerprint, persisted, d.lastModified, sequences, collections, conditions,
    fieldLabels, lexicons, policies, policyTypes⟩
  have hleft : build c persisted = (s.dated c.lastModified).checked := by
    simp only [build, h1, h2, h3, h4, h5, h6, h7, hfingerprint]
    rfl
  have hright : build d persisted = s.checked := by
    simp only [build, h1', h2', h3', h4', h5', h6', h7']
    rfl
  rw [hleft, hright, checked_dated]

/-- Where all numbers are finite, equal canonical forms build the same, but for when they were last
modified. -/
theorem build_eq_of_canonical (hc : c.Plain) (hd : d.Plain) (hfin : ∀ x ∈ d.numbers, x.isFinite)
    (h : c.canonical = d.canonical) (hs : build c persisted = .ok s) (ht : build d persisted = .ok t) :
    s = t.dated c.lastModified := by
  have hdistinct : c.Distinct := (exists_build_iff.mp ⟨s, hs⟩).toDistinct
  have hbuild := build_eq_of_arranged hdistinct (Configuration.arranged_eq_of_canonical hc hd hfin h) persisted
  rw [hs, ht] at hbuild
  exact Except.ok.inj hbuild

end Snapshot

end Filing
