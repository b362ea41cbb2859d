import Filing.Index
import Mathlib.Data.List.Nodup

/-!
# Members of indexes and of sorted lists

An index is determined by its members, and `get?` finds the one member that a key has. `ofDistinct`
succeeds exactly where no key comes twice. `sortOn` permutes a list; where no key comes twice the
result is determined by the members alone, and everywhere it commutes with maps that keep the key.
-/

namespace Filing

variable {α κ : Type} [LT κ]

theorem mem_of_lookup {β : Type} [BEq α] [LawfulBEq α] {a : α} {b : β} {pairs : List (α × β)}
    (h : pairs.lookup a = some b) : (a, b) ∈ pairs := by
  obtain ⟨before, after, rfl, -⟩ := List.lookup_eq_some_iff.mp h
  exact List.mem_append_right _ List.mem_cons_self

namespace KeyOrder
variable [KeyOrder κ] {a b c : κ}

theorem asymm (h : a < b) : ¬ b < a := fun h' => irrefl a (trans h h')

theorem ne_of_lt (h : a < b) : a ≠ b := by
  intro he
  subst he
  exact irrefl a h

theorem not_lt_trans (hab : ¬ b < a) (hbc : ¬ c < b) : ¬ c < a := by
  intro hca
  by_cases h : a < b
  · exact hbc (trans hca h)
  · have he : a = b := eq_of_not_lt h hab
    exact hbc (he ▸ hca)

end KeyOrder

theorem ascending_ext [KeyOrder κ] {key : α → κ} {xs ys : List α}
    (hx : xs.Pairwise fun a b => key a < key b) (hy : ys.Pairwise fun a b => key a < key b)
    (h : ∀ z, z ∈ xs ↔ z ∈ ys) : xs = ys := by
  have nodup {zs : List α} (hz : zs.Pairwise fun a b => key a < key b) : zs.Nodup :=
    hz.imp fun hab he => KeyOrder.ne_of_lt hab (congrArg key he)
  have hp : xs.Perm ys := (List.perm_ext_iff_of_nodup (nodup hx) (nodup hy)).mpr h
  exact hp.eq_of_pairwise (fun a b _ _ hab hba => absurd hba (KeyOrder.asymm hab)) hx hy

theorem keys_nodup_of_ascending [KeyOrder κ] {key : α → κ} {xs : List α}
    (h : xs.Pairwise fun a b => key a < key b) : (xs.map key).Nodup :=
  List.pairwise_map.mpr (h.imp KeyOrder.ne_of_lt)

variable [DecidableLT κ]

theorem insertBefore_perm (key : α → κ) (x : α) (ys : List α) :
    (insertBefore key x ys).Perm (x :: ys) := by
  induction ys with
  | nil => exact .refl _
  | cons y ys ih =>
    simp only [insertBefore]
    split
    · exact (ih.cons y).trans (.swap x y ys)
    · exact .refl _

theorem sortOn_perm (key : α → κ) (xs : List α) : (sortOn key xs).Perm xs := by
  induction xs with
  | nil => exact .refl _
  | cons x xs ih => exact (insertBefore_perm key x _).trans (ih.cons x)

@[simp] theorem mem_sortOn {key : α → κ} {xs : List α} {z : α} : z ∈ sortOn key xs ↔ z ∈ xs :=
  (sortOn_perm key xs).mem_iff

theorem nodup_keys_sortOn {key : α → κ} {xs : List α} :
    ((sortOn key xs).map key).Nodup ↔ (xs.map key).Nodup :=
  ((sortOn_perm key xs).map key).nodup_iff

theorem insertBefore_ordered [KeyOrder κ] {key : α → κ} (x : α) {ys : List α}
    (h : ys.Pairwise fun a b => ¬ key b < key a) :
    (insertBefore key x ys).Pairwise fun a b => ¬ key b < key a := by
  induction ys with
  | nil => simp [insertBefore]
  | cons y ys ih =>
    obtain ⟨hy, hys⟩ := List.pairwise_cons.mp h
    simp only [insertBefore]
    split
    · rename_i hyx
      refine List.pairwise_cons.mpr ⟨fun z hz => ?_, ih hys⟩
      rcases List.mem_cons.mp ((insertBefore_perm key x ys).mem_iff.mp hz) with rfl | hz
      · exact KeyOrder.asymm hyx
      · exact hy z hz
    · rename_i hyx
      refine List.pairwise_cons.mpr ⟨fun z hz => ?_, h⟩
      rcases List.mem_cons.mp hz with rfl | hz
      · exact hyx
      · exact KeyOrder.not_lt_trans hyx (hy z hz)

theorem sortOn_ordered [KeyOrder κ] (key : α → κ) (xs : List α) :
    (sortOn key xs).Pairwise fun a b => ¬ key b < key a := by
  induction xs with
  | nil => exact .nil
  | cons x xs ih => exact insertBefore_ordered x ih

theorem sortOn_ascending [KeyOrder κ] {key : α → κ} {xs : List α} (hn : (xs.map key).Nodup) :
    (sortOn key xs).Pairwise fun a b => key a < key b := by
  have hd : (sortOn key xs).Pairwise fun a b => key a ≠ key b :=
    List.pairwise_map.mp (nodup_keys_sortOn.mpr hn)
  refine ((sortOn_ordered key xs).and hd).imp ?_
  intro a b ⟨hba, hne⟩
  by_cases hab : key a < key b
  · exact hab
  · exact absurd (KeyOrder.eq_of_not_lt hab hba) hne

theorem sortOn_of_ordered {key : α → κ} {xs : List α}
    (h : xs.Pairwise fun a b => ¬ key b < key a) : sortOn key xs = xs := by
  induction xs with
  | nil => rfl
  | cons x xs ih =>
    obtain ⟨hx, hxs⟩ := List.pairwise_cons.mp h
    change insertBefore key x (sortOn key xs) = x :: xs
    rw [ih hxs]
    cases xs with
    | nil => rfl
    | cons y ys => exact if_neg (hx y List.mem_cons_self)

@[simp] theorem sortOn_sortOn [KeyOrder κ] (key : α → κ) (xs : List α) :
    sortOn key (sortOn key xs) = sortOn key xs :=
  sortOn_of_ordered (sortOn_ordered key xs)

theorem sortOn_map {β : Type} {key : α → κ} {key' : β → κ} {f : α → β}
    (h : ∀ x, key' (f x) = key x) (xs : List α) :
    sortOn key' (xs.map f) = (sortOn key xs).map f := by
  have insert (x : α) (ys : List α) :
      insertBefore key' (f x) (ys.map f) = (insertBefore key x ys).map f := by
    induction ys with
    | nil => rfl
    | cons y ys ih =>
      simp only [List.map_cons, insertBefore, h, ih]
      split <;> rfl
  induction xs with
  | nil => rfl
  | cons x xs ih =>
    change insertBefore key' (f x) (sortOn key' (xs.map f)) = _
    rw [ih, insert]
    rfl

theorem sortOn_eq_of_perm [KeyOrder κ] {key : α → κ} {xs ys : List α} (hn : (xs.map key).Nodup)
    (hp : xs.Perm ys) : sortOn key xs = sortOn key ys := by
  have hn' : (ys.map key).Nodup := (hp.map key).nodup_iff.mp hn
  apply ascending_ext (sortOn_ascending hn) (sortOn_ascending hn')
  intro z
  rw [mem_sortOn, mem_sortOn, hp.mem_iff]

section Ties
variable [KeyOrder κ] [DecidableEq κ] {key : α → κ}

theorem filter_insertBefore (k : κ) (x : α) (ys : List α) :
    (insertBefore key x ys).filter (fun z => key z = k) = (x :: ys).filter (fun z => key z = k) := by
  induction ys with
  | nil => rfl
  | cons y ys ih =>
    simp only [insertBefore]
    split
    · rename_i hyx
      have hne : key y ≠ key x := KeyOrder.ne_of_lt hyx
      rw [List.filter_cons, ih]
      by_cases hx : key x = k
      · have hy : key y ≠ k := fun hy => hne (hy.trans hx.symm)
        simp [hx, hy]
      · simp [List.filter_cons, hx]
    · rfl

/-- The sort is stable: the items of each key stay in their order. -/
theorem filter_sortOn (k : κ) (xs : List α) :
    (sortOn key xs).filter (fun z => key z = k) = xs.filter (fun z => key z = k) := by
  induction xs with
  | nil => rfl
  | cons x xs ih =>
    have hx : (sortOn key (x :: xs)).filter (fun z => key z = k) =
        (x :: sortOn key xs).filter (fun z => key z = k) := filter_insertBefore k x _
    rw [hx, List.filter_cons, List.filter_cons, ih]

omit [LT κ] [DecidableLT κ] [KeyOrder κ] in
theorem mem_of_same_ties {xs ys : List α} {x : α}
    (h : ∀ k, xs.filter (fun z => key z = k) = ys.filter (fun z => key z = k)) (hx : x ∈ xs) : x ∈ ys := by
  have hf : x ∈ xs.filter (fun z => key z = key x) := List.mem_filter.mpr ⟨hx, by simp⟩
  rw [h] at hf
  exact (List.mem_filter.mp hf).1

omit [DecidableLT κ] in
theorem ordered_ext {xs ys : List α} (hx : xs.Pairwise fun a b => ¬ key b < key a)
    (hy : ys.Pairwise fun a b => ¬ key b < key a)
    (h : ∀ k, xs.filter (fun z => key z = k) = ys.filter (fun z => key z = k)) : xs = ys := by
  induction xs generalizing ys with
  | nil =>
    refine (List.eq_nil_iff_forall_not_mem.mpr fun y hm => ?_).symm
    exact List.not_mem_nil (mem_of_same_ties (fun k => (h k).symm) hm)
  | cons x xs ih =>
    cases ys with
    | nil => exact absurd (mem_of_same_ties h List.mem_cons_self) List.not_mem_nil
    | cons y ys =>
      obtain ⟨hx1, hxs⟩ := List.pairwise_cons.mp hx
      obtain ⟨hy1, hys⟩ := List.pairwise_cons.mp hy
      have hxy : ¬ key x < key y := by
        rcases List.mem_cons.mp (mem_of_same_ties h List.mem_cons_self) with rfl | hm
        · exact KeyOrder.irrefl _
        · exact hy1 x hm
      have hyx : ¬ key y < key x := by
        rcases List.mem_cons.mp (mem_of_same_ties (fun k => (h k).symm) List.mem_cons_self) with rfl | hm
        · exact KeyOrder.irrefl _
        · exact hx1 y hm
      have hkey : key x = key y := KeyOrder.eq_of_not_lt hxy hyx
      have hhead := h (key x)
      rw [List.filter_cons_of_pos (by simp), List.filter_cons_of_pos (by simp [hkey])] at hhead
      obtain ⟨rfl, htail⟩ := List.cons.inj hhead
      have hrest : ∀ k, xs.filter (fun z => key z = k) = ys.filter (fun z => key z = k) := by
        intro k
        by_cases hk : key x = k
        · exact hk ▸ htail
        · have hcons := h k
          rwa [List.filter_cons_of_neg (by simpa using hk),
            List.filter_cons_of_neg (by simpa using hk)] at hcons
      rw [ih hxs hys hrest]

/-- What the sort gives depends only on the order of the items of each key. -/
theorem sortOn_eq_of_same_ties {xs ys : List α}
    (h : ∀ k, xs.filter (fun z => key z = k) = ys.filter (fun z => key z = k)) :
    sortOn key xs = sortOn key ys := by
  apply ordered_ext (sortOn_ordered key xs) (sortOn_ordered key ys)
  intro k
  rw [filter_sortOn, filter_sortOn, h k]

end Ties

namespace Index
variable [KeyOrder κ] {key : α → κ} {s t : Index key} {k : κ} {x z : α}

omit [DecidableLT κ] in
theorem ext_of_mem (h : ∀ z, z ∈ s.items ↔ z ∈ t.items) : s = t :=
  ext (ascending_ext s.ascending t.ascending h)

omit [DecidableLT κ] in
theorem keys_nodup (s : Index key) : (s.items.map key).Nodup := keys_nodup_of_ascending s.ascending

theorem found_iff : (!decide (key x < k) && !decide (k < key x)) = true ↔ key x = k := by
  simp only [Bool.and_eq_true, Bool.not_eq_true', decide_eq_false_iff_not]
  constructor
  · rintro ⟨h, h'⟩
    exact KeyOrder.eq_of_not_lt h h'
  · rintro rfl
    exact ⟨KeyOrder.irrefl _, KeyOrder.irrefl _⟩

theorem get?_eq_none_iff : s.get? k = none ↔ ∀ x ∈ s.items, key x ≠ k := by
  simp only [get?, List.find?_eq_none, found_iff, ne_eq]

theorem get?_eq_some_iff : s.get? k = some x ↔ x ∈ s.items ∧ key x = k := by
  constructor
  · intro h
    have hk := List.find?_some h
    exact ⟨List.mem_of_find?_eq_some h, found_iff.mp hk⟩
  · rintro ⟨hx, rfl⟩
    cases h : s.get? (key x) with
    | none => exact absurd rfl (get?_eq_none_iff.mp h x hx)
    | some y =>
      have hk := List.find?_some h
      rw [List.inj_on_of_nodup_map s.keys_nodup (List.mem_of_find?_eq_some h) hx (found_iff.mp hk)]

theorem contains_iff : s.contains k = true ↔ ∃ x ∈ s.items, key x = k := by
  rw [contains, Option.isSome_iff_exists]
  simp only [get?_eq_some_iff]

theorem mem_insert_iff : z ∈ (s.insert x).items ↔ z = x ∨ (z ∈ s.items ∧ key z ≠ key x) := by
  have go : ∀ {ys : List α}, (ys.Pairwise fun a b => key a < key b) →
      (z ∈ insertAscending key x ys ↔ z = x ∨ (z ∈ ys ∧ key z ≠ key x)) := by
    intro ys h
    induction ys with
    | nil => simp [insertAscending]
    | cons y ys ih =>
      obtain ⟨hy, hys⟩ := List.pairwise_cons.mp h
      simp only [insertAscending]
      split
      · rename_i hxy
        have hne : ∀ z ∈ y :: ys, key z ≠ key x := by
          intro z hz
          rcases List.mem_cons.mp hz with rfl | hz
          · exact (KeyOrder.ne_of_lt hxy).symm
          · exact (KeyOrder.ne_of_lt (KeyOrder.trans hxy (hy z hz))).symm
        rw [List.mem_cons]
        exact or_congr_right ⟨fun hz => ⟨hz, hne z hz⟩, fun hz => hz.1⟩
      · split
        · rename_i hyx
          rw [List.mem_cons, ih hys, List.mem_cons]
          constructor
          · rintro (rfl | rfl | ⟨hz, hn⟩)
            · exact .inr ⟨.inl rfl, KeyOrder.ne_of_lt hyx⟩
            · exact .inl rfl
            · exact .inr ⟨.inr hz, hn⟩
          · rintro (rfl | ⟨rfl | hz, hn⟩)
            · exact .inr (.inl rfl)
            · exact .inl rfl
            · exact .inr (.inr ⟨hz, hn⟩)
        · rename_i hxy hyx
          have he : key x = key y := KeyOrder.eq_of_not_lt hxy hyx
          rw [List.mem_cons, List.mem_cons]
          constructor
          · rintro (rfl | hz)
            · exact .inl rfl
            · exact .inr ⟨.inr hz, he ▸ (KeyOrder.ne_of_lt (hy z hz)).symm⟩
          · rintro (rfl | ⟨rfl | hz, hn⟩)
            · exact .inl rfl
            · exact absurd he.symm hn
            · exact .inr hz
  exact go s.ascending

theorem get?_insert [DecidableEq κ] : (s.insert x).get? k = if k = key x then some x else s.get? k := by
  by_cases hk : k = key x
  · rw [if_pos hk]
    exact get?_eq_some_iff.mpr ⟨mem_insert_iff.mpr (.inl rfl), hk.symm⟩
  · rw [if_neg hk]
    apply Option.ext
    intro z
    rw [get?_eq_some_iff, get?_eq_some_iff, mem_insert_iff]
    constructor
    · rintro ⟨rfl | ⟨hz, -⟩, rfl⟩
      · exact absurd rfl hk
      · exact ⟨hz, rfl⟩
    · rintro ⟨hz, rfl⟩
      exact ⟨.inr ⟨hz, hk⟩, rfl⟩

theorem mem_insert_of_not_contains (h : s.contains (key x) = false) :
    z ∈ (s.insert x).items ↔ z = x ∨ z ∈ s.items := by
  have hn : ∀ z ∈ s.items, key z ≠ key x := by
    intro z hz he
    rw [contains_iff.mpr ⟨z, hz, he⟩] at h
    cases h
  rw [mem_insert_iff]
  exact or_congr_right ⟨fun hz => hz.1, fun hz => ⟨hz, hn z hz⟩⟩

def insertNew (s : Index key) (x : α) : Except κ (Index key) :=
  if s.contains (key x) then .error (key x) else .ok (s.insert x)

theorem foldlM_insertNew_ok {xs : List α} (hn : (xs.map key).Nodup) :
    ∀ s : Index key, (∀ x ∈ xs, s.contains (key x) = false) →
      ∃ t : Index key, xs.foldlM insertNew s = .ok t ∧ ∀ z, z ∈ t.items ↔ z ∈ s.items ∨ z ∈ xs := by
  induction xs with
  | nil => exact fun s _ => ⟨s, rfl, fun z => by simp⟩
  | cons x xs ih =>
    intro s h
    obtain ⟨hx, hxs⟩ := List.nodup_cons.mp hn
    have hs := h x List.mem_cons_self
    have hfresh : ∀ y ∈ xs, (s.insert x).contains (key y) = false := by
      intro y hy
      rw [Bool.eq_false_iff]
      intro hc
      obtain ⟨z, hz, hk⟩ := contains_iff.mp hc
      rcases (mem_insert_of_not_contains hs).mp hz with rfl | hz
      · exact hx (hk ▸ List.mem_map_of_mem hy)
      · have := h y (List.mem_cons_of_mem _ hy)
        rw [contains_iff.mpr ⟨z, hz, hk⟩] at this
        cases this
    obtain ⟨t, ht, hm⟩ := ih hxs (s.insert x) hfresh
    refine ⟨t, ?_, fun z => ?_⟩
    · rw [List.foldlM_cons, insertNew, hs]
      exact ht
    · rw [hm, mem_insert_of_not_contains hs, List.mem_cons, or_assoc, or_left_comm]

theorem nodup_of_foldlM_insertNew {xs : List α} :
    ∀ {s t : Index key}, xs.foldlM insertNew s = .ok t →
      (xs.map key).Nodup ∧ ∀ x ∈ xs, s.contains (key x) = false := by
  induction xs with
  | nil => exact fun _ => ⟨.nil, by simp⟩
  | cons x xs ih =>
    intro s t h
    rw [List.foldlM_cons, insertNew] at h
    cases hs : s.contains (key x) with
    | true =>
      rw [hs] at h
      cases h
    | false =>
      rw [hs] at h
      obtain ⟨hn, hfresh⟩ := ih (s := s.insert x) (t := t) h
      have hnew : ∀ y ∈ xs, key y ≠ key x ∧ s.contains (key y) = false := by
        intro y hy
        have hy' := hfresh y hy
        rw [Bool.eq_false_iff, ne_eq, contains_iff] at hy'
        refine ⟨fun he => hy' ⟨x, ?_, he.symm⟩, ?_⟩
        · exact (mem_insert_of_not_contains hs).mpr (.inl rfl)
        · rw [Bool.eq_false_iff, ne_eq, contains_iff]
          rintro ⟨z, hz, hk⟩
          exact hy' ⟨z, (mem_insert_of_not_contains hs).mpr (.inr hz), hk⟩
      refine ⟨List.nodup_cons.mpr ⟨?_, hn⟩, fun y hy => ?_⟩
      · intro hx
        obtain ⟨y, hy, he⟩ := List.mem_map.mp hx
        exact (hnew y hy).1 he
      · rcases List.mem_cons.mp hy with rfl | hy
        · exact hs
        · exact (hnew y hy).2

omit [KeyOrder κ] in
theorem contains_empty : (empty : Index key).contains k = false := rfl

/-- A list is an index exactly where no key comes twice; the index then has its items. -/
theorem ofDistinct_eq_ok_iff {xs : List α} :
    (ofDistinct xs : Except κ (Index key)) = .ok s ↔
      (xs.map key).Nodup ∧ ∀ z, z ∈ s.items ↔ z ∈ xs := by
  have hfresh : ∀ x ∈ xs, (empty : Index key).contains (key x) = false :=
    fun _ _ => contains_empty
  constructor
  · intro h
    have hn := (nodup_of_foldlM_insertNew (s := empty) h).1
    obtain ⟨t, ht, hm⟩ := foldlM_insertNew_ok hn empty hfresh
    have he : t = s := Except.ok.inj (ht.symm.trans h)
    refine ⟨hn, fun z => ?_⟩
    rw [← he, hm]
    simp [empty]
  · rintro ⟨hn, hs⟩
    obtain ⟨t, ht, hm⟩ := foldlM_insertNew_ok hn empty hfresh
    have he : t = s := ext_of_mem fun z => by rw [hm, hs]; simp [empty]
    exact he ▸ ht

theorem exists_ofDistinct {xs : List α} (hn : (xs.map key).Nodup) :
    ∃ s : Index key, ofDistinct xs = .ok s :=
  ⟨⟨sortOn key xs, sortOn_ascending hn⟩, ofDistinct_eq_ok_iff.mpr ⟨hn, fun _ => mem_sortOn⟩⟩

theorem contains_ofDistinct {xs : List α} (h : (ofDistinct xs : Except κ (Index key)) = .ok s) :
    s.contains k = true ↔ k ∈ xs.map key := by
  rw [contains_iff, List.mem_map]
  exact exists_congr fun z => and_congr_left' ((ofDistinct_eq_ok_iff.mp h).2 z)

theorem ofDistinct_congr {xs ys : List α} (hn : (xs.map key).Nodup) (h : sortOn key xs = sortOn key ys) :
    (ofDistinct xs : Except κ (Index key)) = ofDistinct ys := by
  have hn' : (ys.map key).Nodup := by
    rw [← nodup_keys_sortOn, ← h, nodup_keys_sortOn]
    exact hn
  obtain ⟨s, hs⟩ := exists_ofDistinct hn
  have hm := (ofDistinct_eq_ok_iff.mp hs).2
  have ht : (ofDistinct ys : Except κ (Index key)) = .ok s := by
    refine ofDistinct_eq_ok_iff.mpr ⟨hn', fun z => ?_⟩
    have hz : z ∈ sortOn key xs ↔ z ∈ sortOn key ys := by rw [h]
    rw [mem_sortOn, mem_sortOn] at hz
    exact (hm z).trans hz
  rw [hs, ht]

theorem mem_of_mem_ofList {xs : List α} (h : z ∈ (ofList xs : Index key).items) : z ∈ xs := by
  have go : ∀ (ys : List α) (s : Index key), z ∈ (ys.foldl insert s).items → z ∈ s.items ∨ z ∈ ys := by
    intro ys
    induction ys with
    | nil => exact fun _ h => .inl h
    | cons y ys ih =>
      intro s h
      rcases ih (s.insert y) h with h | h
      · rcases mem_insert_iff.mp h with rfl | h
        · exact .inr List.mem_cons_self
        · exact .inl h.1
      · exact .inr (List.mem_cons_of_mem y h)
  exact (go xs empty h).resolve_left (List.not_mem_nil)

theorem mem_ofList_of_nodup {xs : List α} (hn : (xs.map key).Nodup) :
    z ∈ (ofList xs : Index key).items ↔ z ∈ xs := by
  refine ⟨mem_of_mem_ofList, ?_⟩
  have go : ∀ (ys : List α) (s : Index key), (ys.map key).Nodup →
      z ∈ ys ∨ (z ∈ s.items ∧ key z ∉ ys.map key) → z ∈ (ys.foldl insert s).items := by
    intro ys
    induction ys with
    | nil => exact fun s _ h => (h.resolve_left List.not_mem_nil).1
    | cons y ys ih =>
      intro s hn h
      have ⟨hy, hys⟩ := List.nodup_cons.mp hn
      refine ih (s.insert y) hys ?_
      rcases h with h | ⟨hz, hk⟩
      · rcases List.mem_cons.mp h with rfl | h
        · exact .inr ⟨mem_insert_iff.mpr (.inl rfl), hy⟩
        · exact .inl h
      · have ⟨hne, hk⟩ := List.ne_and_not_mem_of_not_mem_cons hk
        exact .inr ⟨mem_insert_iff.mpr (.inr ⟨hz, hne⟩), hk⟩
  exact fun h => go xs empty hn (.inl h)

@[simp] theorem ofList_items (s : Index key) : ofList s.items = s :=
  ext_of_mem fun _ => mem_ofList_of_nodup s.keys_nodup

section Sets
variable {s t : Index fun k : κ => k} {k z : κ}

theorem contains_iff_mem : s.contains k = true ↔ k ∈ s.items := by
  rw [contains_iff]
  constructor
  · rintro ⟨x, hx, he⟩
    exact he ▸ hx
  · exact fun h => ⟨k, h, rfl⟩

theorem mem_insert : z ∈ (s.insert k).items ↔ z = k ∨ z ∈ s.items := by
  rw [mem_insert_iff]
  by_cases h : z = k <;> simp [h]

theorem mem_foldl_insert {ks : List κ} :
    ∀ s : Index fun k : κ => k, z ∈ (ks.foldl insert s).items ↔ z ∈ s.items ∨ z ∈ ks := by
  induction ks with
  | nil => exact fun s => by simp
  | cons k ks ih =>
    intro s
    rw [List.foldl_cons, ih, mem_insert, List.mem_cons, or_left_comm, or_assoc]

@[simp] theorem mem_ofList {ks : List κ} : z ∈ (ofList ks : Index fun k : κ => k).items ↔ z ∈ ks := by
  rw [ofList, mem_foldl_insert]
  simp [empty]

theorem mem_union : z ∈ (s.union t).items ↔ z ∈ s.items ∨ z ∈ t.items :=
  mem_foldl_insert s

end Sets

end Index

namespace IdSet

theorem head?_eq_some_iff {s : IdSet} {k : Int} :
    s.items.head? = some k ↔ k ∈ s.items ∧ ∀ x ∈ s.items, k ≤ x := by
  obtain ⟨items, hs⟩ := s
  cases items with
  | nil => simp
  | cons y ys =>
    have hy := (List.pairwise_cons.mp hs).1
    constructor
    · intro h
      cases h
      refine ⟨List.mem_cons_self, fun x hx => ?_⟩
      rcases List.mem_cons.mp hx with rfl | hx
      · exact Int.le_refl _
      · exact Int.le_of_lt (hy x hx)
    · rintro ⟨hk, hle⟩
      rcases List.mem_cons.mp hk with rfl | hk
      · rfl
      · have := hle y List.mem_cons_self
        have := hy k hk
        omega

theorem getLast?_eq_some_iff {s : IdSet} {k : Int} :
    s.items.getLast? = some k ↔ k ∈ s.items ∧ ∀ x ∈ s.items, x ≤ k := by
  have highest {l : Int} (h : s.items.getLast? = some l) : l ∈ s.items ∧ ∀ x ∈ s.items, x ≤ l := by
    obtain ⟨ys, he⟩ := List.getLast?_eq_some_iff.mp h
    have hs := s.ascending
    rw [he] at hs ⊢
    refine ⟨by simp, fun x hx => ?_⟩
    rcases List.mem_append.mp hx with hx | hx
    · exact Int.le_of_lt ((List.pairwise_append.mp hs).2.2 x hx l (by simp))
    · exact Int.le_of_eq (List.mem_singleton.mp hx)
  constructor
  · exact highest
  · rintro ⟨hk, hle⟩
    cases h : s.items.getLast? with
    | none =>
      rw [List.getLast?_eq_none_iff.mp h] at hk
      cases hk
    | some l =>
      have hl := highest h
      have h1 := hl.2 k hk
      have h2 := hle l hl.1
      rw [Int.le_antisymm h2 h1]

end IdSet

end Filing
