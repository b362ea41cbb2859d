import Filing.Text.Lowercase
import Mathlib.Data.List.TakeWhile

/-!
# Lower case of a part of a text

Where a text is a part of another one, what is around it matters only for its capital sigmas, and of the
surroundings it matters only whether the nearest character that is not passed over has case, on each side. Two
sigmas can be touched: the last character that counts, when a letter with case follows, and the first one, when
a letter with case comes before. A text with neither has the same lower form wherever it stands.
-/

-- The tables of characters are long lists.
set_option maxRecDepth 2000

namespace Filing.Text

theorem sigma_not_ignorable : caseIgnorable.contains 'Σ' = false := rfl

theorem sigma_cased : cased.contains 'Σ' = true := rfl

theorem facesCased_cons (c : Char) (cs : List Char) :
    facesCased (c :: cs) = if caseIgnorable.contains c then facesCased cs else cased.contains c := by
  unfold facesCased
  by_cases hc : caseIgnorable.contains c = true
  · rw [List.dropWhile_cons_of_pos hc, if_pos hc]
  · rw [List.dropWhile_cons_of_neg hc, if_neg hc]

theorem facesCased_sigma (cs : List Char) : facesCased ('Σ' :: cs) = true := by
  rw [facesCased_cons, sigma_not_ignorable, if_neg Bool.false_ne_true]
  exact sigma_cased

theorem facesCased_append_of_ignorable {xs : List Char} (h : ∀ c ∈ xs, caseIgnorable.contains c = true)
    (ys : List Char) : facesCased (xs ++ ys) = facesCased ys := by
  induction xs with
  | nil => rfl
  | cons c xs ih =>
    rw [List.cons_append, facesCased_cons, if_pos (h c List.mem_cons_self)]
    exact ih fun d hd => h d (List.mem_cons_of_mem c hd)

theorem facesCased_append_of_not_ignorable {xs : List Char}
    (h : ¬ ∀ c ∈ xs, caseIgnorable.contains c = true) (ys : List Char) :
    facesCased (xs ++ ys) = facesCased xs := by
  induction xs with
  | nil => exact absurd (fun c hc => absurd hc List.not_mem_nil) h
  | cons c xs ih =>
    rw [List.cons_append, facesCased_cons, facesCased_cons]
    by_cases hc : caseIgnorable.contains c = true
    · rw [if_pos hc, if_pos hc]
      apply ih
      intro hall
      apply h
      intro d hd
      rcases List.mem_cons.mp hd with rfl | hd
      · exact hc
      · exact hall d hd
    · rw [if_neg hc, if_neg hc]

theorem facesCased_eq_false_of_ignorable {xs : List Char}
    (h : ∀ c ∈ xs, caseIgnorable.contains c = true) : facesCased xs = false := by
  have happend := facesCased_append_of_ignorable h []
  rw [List.append_nil] at happend
  exact happend

theorem facesCased_append_congr {ys zs : List Char} (h : facesCased ys = facesCased zs) (xs : List Char) :
    facesCased (xs ++ ys) = facesCased (xs ++ zs) := by
  by_cases hxs : ∀ c ∈ xs, caseIgnorable.contains c = true
  · rw [facesCased_append_of_ignorable hxs, facesCased_append_of_ignorable hxs, h]
  · rw [facesCased_append_of_not_ignorable hxs, facesCased_append_of_not_ignorable hxs]

/-- The lower form of a character that stands after the characters `before`, the nearest first, and before the
characters `after`. -/
def lowerAt (before after : List Char) (c : Char) : List Char :=
  if c = 'Σ' then [if facesCased before && !facesCased after then 'ς' else 'σ'] else lowerChar c

/-- The lower form that a part of a text has between the characters `before`, the nearest first, and `after`. -/
def lowerWithin (before after : List Char) : List Char → List Char
  | [] => []
  | c :: rest => lowerAt before (rest ++ after) c ++ lowerWithin (c :: before) after rest

theorem lowerWithin_nil_eq_lowerAfter (xs : List Char) : ∀ before : List Char,
    lowerWithin before [] xs = lowerAfter before xs := by
  induction xs with
  | nil => exact fun _ => rfl
  | cons c xs ih =>
    intro before
    rw [lowerWithin, List.append_nil, ih]
    rfl

theorem lowerAfter_append (xs ys : List Char) : ∀ before : List Char,
    lowerAfter before (xs ++ ys) = lowerWithin before ys xs ++ lowerAfter (xs.reverse ++ before) ys := by
  induction xs with
  | nil => exact fun _ => rfl
  | cons c xs ih =>
    intro before
    have hcons : lowerAfter before (c :: (xs ++ ys)) =
        lowerAt before (xs ++ ys) c ++ lowerAfter (c :: before) (xs ++ ys) := rfl
    rw [List.cons_append, hcons, ih, lowerWithin, List.append_assoc, List.reverse_cons, List.append_assoc]
    rfl

theorem lowerWithin_append (xs ys after : List Char) : ∀ before : List Char,
    lowerWithin before after (xs ++ ys) =
      lowerWithin before (ys ++ after) xs ++ lowerWithin (xs.reverse ++ before) after ys := by
  induction xs with
  | nil => exact fun _ => rfl
  | cons c xs ih =>
    intro before
    rw [List.cons_append, lowerWithin, ih, lowerWithin, List.append_assoc, List.append_assoc, List.reverse_cons,
      List.append_assoc]
    rfl

theorem lower_append (before xs after : List Char) :
    lower (before ++ xs ++ after) =
      lowerWithin [] (xs ++ after) before ++ lowerWithin before.reverse after xs ++
        lowerAfter (xs.reverse ++ before.reverse) after := by
  rw [lower, lowerAfter_append, lowerWithin_append, List.append_nil, List.reverse_append, List.append_nil]

theorem lowerWithin_congr {after after' : List Char} (ha : facesCased after = facesCased after')
    (xs : List Char) : ∀ {before before' : List Char}, facesCased before = facesCased before' →
      lowerWithin before after xs = lowerWithin before' after' xs := by
  induction xs with
  | nil => exact fun _ => rfl
  | cons c xs ih =>
    intro before before' hb
    have hnext : facesCased (c :: before) = facesCased (c :: before') := facesCased_append_congr hb [c]
    rw [lowerWithin, lowerWithin, ih hnext, lowerAt, lowerAt, hb, facesCased_append_congr ha]

/-- Whether the last character that is not passed over is a capital sigma after a letter with case. Where the
text stands alone, its lower form is the final sigma. -/
def endsInSigma (cs : List Char) : Bool :=
  match cs.reverse.dropWhile caseIgnorable.contains with
  | c :: before => c == 'Σ' && facesCased before
  | [] => false

/-- Whether the first character that is not passed over is a capital sigma with no letter with case behind it, in
the text itself or among the characters `after` it. Where nothing comes before, its lower form is not the final
sigma. -/
def startsWithSigma (cs after : List Char) : Bool :=
  match cs.dropWhile caseIgnorable.contains with
  | c :: rest => c == 'Σ' && !facesCased (rest ++ after)
  | [] => false

theorem dropWhile_ignorable_eq_iff {cs rest : List Char} :
    cs.dropWhile caseIgnorable.contains = 'Σ' :: rest ↔
      ∃ xs, cs = xs ++ 'Σ' :: rest ∧ ∀ c ∈ xs, caseIgnorable.contains c = true := by
  constructor
  · intro h
    refine ⟨cs.takeWhile caseIgnorable.contains, ?_, fun c hc => List.mem_takeWhile_imp hc⟩
    rw [← h, List.takeWhile_append_dropWhile]
  · rintro ⟨xs, rfl, hxs⟩
    have hstop : ¬ caseIgnorable.contains 'Σ' = true := by
      rw [sigma_not_ignorable]
      exact Bool.false_ne_true
    rw [List.dropWhile_append_of_pos hxs, List.dropWhile_cons_of_neg hstop]

theorem startsWithSigma_iff {cs after : List Char} : startsWithSigma cs after = true ↔
    ∃ xs rest, cs = xs ++ 'Σ' :: rest ∧ (∀ c ∈ xs, caseIgnorable.contains c = true) ∧
      facesCased (rest ++ after) = false := by
  unfold startsWithSigma
  constructor
  · intro h
    split at h
    · rename_i c rest hdrop
      simp only [Bool.and_eq_true, beq_iff_eq, Bool.not_eq_true'] at h
      obtain ⟨rfl, hface⟩ := h
      obtain ⟨xs, he, hxs⟩ := dropWhile_ignorable_eq_iff.mp hdrop
      exact ⟨xs, rest, he, hxs, hface⟩
    · cases h
  · rintro ⟨xs, rest, he, hxs, hface⟩
    rw [dropWhile_ignorable_eq_iff.mpr ⟨xs, he, hxs⟩]
    simp [hface]

theorem endsInSigma_iff {cs : List Char} : endsInSigma cs = true ↔
    ∃ xs rest, cs = xs ++ 'Σ' :: rest ∧ (∀ c ∈ rest, caseIgnorable.contains c = true) ∧
      facesCased xs.reverse = true := by
  unfold endsInSigma
  constructor
  · intro h
    split at h
    · rename_i c before hdrop
      simp only [Bool.and_eq_true, beq_iff_eq] at h
      obtain ⟨rfl, hface⟩ := h
      obtain ⟨ys, he, hys⟩ := dropWhile_ignorable_eq_iff.mp hdrop
      refine ⟨before.reverse, ys.reverse, ?_, fun c hc => hys c (List.mem_reverse.mp hc), ?_⟩
      · rw [← List.reverse_reverse cs, he]
        simp
      · rw [List.reverse_reverse]
        exact hface
    · cases h
  · rintro ⟨xs, rest, rfl, hrest, hface⟩
    have hdrop : (xs ++ 'Σ' :: rest).reverse.dropWhile caseIgnorable.contains = 'Σ' :: xs.reverse := by
      apply dropWhile_ignorable_eq_iff.mpr
      exact ⟨rest.reverse, by simp, fun c hc => hrest c (List.mem_reverse.mp hc)⟩
    rw [hdrop]
    simp [hface]

/-- The form of a sigma inside of a part is that inside of the part alone, unless it is at an end of the part
that the surroundings touch. -/
theorem sigma_faces_eq {before xs rest after : List Char}
    (hend : ¬ (endsInSigma (xs ++ 'Σ' :: rest) = true ∧ facesCased after = true))
    (hstart : ¬ (startsWithSigma (xs ++ 'Σ' :: rest) after = true ∧ facesCased before = true)) :
    (facesCased (xs.reverse ++ before) && !facesCased (rest ++ after)) =
      (facesCased xs.reverse && !facesCased rest) := by
  by_cases hxs : ∀ c ∈ xs, caseIgnorable.contains c = true
  · have hrev : ∀ c ∈ xs.reverse, caseIgnorable.contains c = true := fun c hc => hxs c (List.mem_reverse.mp hc)
    rw [facesCased_append_of_ignorable hrev, facesCased_eq_false_of_ignorable hrev, Bool.false_and]
    cases hb : facesCased before with
    | false => rfl
    | true =>
      cases ha : facesCased (rest ++ after) with
      | true => rfl
      | false => exact absurd ⟨startsWithSigma_iff.mpr ⟨xs, rest, rfl, hxs, ha⟩, hb⟩ hstart
  · have hrev : ¬ ∀ c ∈ xs.reverse, caseIgnorable.contains c = true :=
      fun h => hxs fun c hc => h c (List.mem_reverse.mpr hc)
    rw [facesCased_append_of_not_ignorable hrev]
    by_cases hrest : ∀ c ∈ rest, caseIgnorable.contains c = true
    · rw [facesCased_append_of_ignorable hrest, facesCased_eq_false_of_ignorable hrest]
      cases hb : facesCased xs.reverse with
      | false => rfl
      | true =>
        cases ha : facesCased after with
        | false => rfl
        | true => exact absurd ⟨endsInSigma_iff.mpr ⟨xs, rest, rfl, hrest, hb⟩, ha⟩ hend
    · rw [facesCased_append_of_not_ignorable hrest]

/-- A part of a text has the lower form that it has alone, unless a sigma at one of its ends is touched. -/
theorem lowerWithin_eq_lower {xs before after : List Char}
    (hend : ¬ (endsInSigma xs = true ∧ facesCased after = true))
    (hstart : ¬ (startsWithSigma xs after = true ∧ facesCased before = true)) :
    lowerWithin before after xs = lower xs := by
  have go : ∀ rest first : List Char, first ++ rest = xs →
      lowerWithin (first.reverse ++ before) after rest = lowerAfter first.reverse rest := by
    intro rest
    induction rest with
    | nil => exact fun _ _ => rfl
    | cons c rest ih =>
      intro first he
      have hnext := ih (first ++ [c]) (by simp [he])
      rw [List.reverse_append] at hnext
      have hcons : lowerAfter first.reverse (c :: rest) =
          lowerAt first.reverse rest c ++ lowerAfter (c :: first.reverse) rest := rfl
      have hhere : lowerAt (first.reverse ++ before) (rest ++ after) c = lowerAt first.reverse rest c := by
        unfold lowerAt
        by_cases hc : c = 'Σ'
        · subst hc
          subst he
          rw [sigma_faces_eq hend hstart]
        · rw [if_neg hc, if_neg hc]
      rw [hcons, lowerWithin, hhere]
      exact congrArg _ hnext
  exact go xs [] rfl

theorem lowerAt_of_ne {c : Char} (hc : c ≠ 'Σ') (before after before' after' : List Char) :
    lowerAt before after c = lowerAt before' after' c := by
  rw [lowerAt, lowerAt, if_neg hc, if_neg hc]

theorem lowerWithin_of_no_sigma {xs : List Char} (h : 'Σ' ∉ xs) (after after' : List Char) :
    ∀ before before' : List Char, lowerWithin before after xs = lowerWithin before' after' xs := by
  induction xs with
  | nil => exact fun _ _ => rfl
  | cons c xs ih =>
    intro before before'
    have hc : c ≠ 'Σ' := fun he => h (he ▸ List.mem_cons_self)
    rw [lowerWithin, lowerWithin, lowerAt_of_ne hc _ _ before' (xs ++ after'),
      ih (fun hx => h (List.mem_cons_of_mem c hx)) (c :: before) (c :: before')]

theorem sigma_not_mem_of_ignorable {xs : List Char} (h : ∀ c ∈ xs, caseIgnorable.contains c = true) :
    'Σ' ∉ xs := by
  intro hmem
  have hpassed := h 'Σ' hmem
  rw [sigma_not_ignorable] at hpassed
  cases hpassed

theorem lowerWithin_sigma (before xs rest after : List Char) :
    lowerWithin before after (xs ++ 'Σ' :: rest) =
      lowerWithin before ['Σ'] xs ++
        (if facesCased (xs.reverse ++ before) && !facesCased (rest ++ after) then 'ς' else 'σ') ::
          lowerWithin ['Σ'] after rest := by
  have hleft : facesCased ('Σ' :: rest ++ after) = facesCased ['Σ'] := by
    rw [List.cons_append, facesCased_sigma, facesCased_sigma]
  have hright : facesCased ('Σ' :: (xs.reverse ++ before)) = facesCased ['Σ'] := by
    rw [facesCased_sigma, facesCased_sigma]
  rw [lowerWithin_append, lowerWithin_congr hleft xs rfl, lowerWithin, lowerWithin_congr rfl rest hright, lowerAt,
    if_pos rfl]
  rfl

theorem not_infix_of_count_lt {c : Char} {xs ys : List Char} (h : ys.count c < xs.count c) : ¬ xs <:+: ys := by
  intro hinside
  exact absurd (hinside.sublist.count_le c) (Nat.not_le.mpr h)

theorem lower_eq_lowerWithin (xs : List Char) : lower xs = lowerWithin [] [] xs :=
  (lowerWithin_nil_eq_lowerAfter xs []).symm

theorem lowerChar_alpha : lowerChar 'Α' = ['α'] := rfl

theorem facesCased_alpha : facesCased ['Α'] = true := rfl

theorem lower_append_alpha (xs : List Char) : lower (xs ++ ['Α']) = lowerWithin [] ['Α'] xs ++ ['α'] := by
  have hlast (before : List Char) : lowerAfter before ['Α'] = ['α'] := by
    rw [lowerAfter, if_neg (by decide), lowerChar_alpha]
    rfl
  rw [lower, lowerAfter_append, hlast]

theorem lower_alpha_cons (xs : List Char) : lower ('Α' :: xs) = 'α' :: lowerWithin ['Α'] [] xs := by
  rw [lower, lowerAfter, if_neg (by decide), lowerChar_alpha, lowerWithin_nil_eq_lowerAfter]
  rfl

theorem not_infix_of_endsInSigma {xs : List Char} (h : endsInSigma xs = true) :
    ¬ lower xs <:+: lower (xs ++ ['Α']) := by
  obtain ⟨first, rest, rfl, hrest, hface⟩ := endsInSigma_iff.mp h
  have hsame := lowerWithin_of_no_sigma (sigma_not_mem_of_ignorable hrest) ['Α'] [] ['Σ'] ['Σ']
  apply not_infix_of_count_lt (c := 'ς')
  rw [lower_append_alpha, lower_eq_lowerWithin, lowerWithin_sigma, lowerWithin_sigma, hsame, List.append_nil,
    List.append_nil, hface, facesCased_append_of_ignorable hrest, facesCased_eq_false_of_ignorable hrest,
    facesCased_alpha]
  simp

theorem not_infix_of_startsWithSigma {xs : List Char} (h : startsWithSigma xs [] = true) :
    ¬ lower xs <:+: lower ('Α' :: xs) := by
  obtain ⟨first, rest, rfl, hfirst, hface⟩ := startsWithSigma_iff.mp h
  have hrev : ∀ c ∈ first.reverse, caseIgnorable.contains c = true :=
    fun c hc => hfirst c (List.mem_reverse.mp hc)
  have hsame := lowerWithin_of_no_sigma (sigma_not_mem_of_ignorable hfirst) ['Σ'] ['Σ'] ['Α'] []
  apply not_infix_of_count_lt (c := 'σ')
  rw [lower_alpha_cons, lower_eq_lowerWithin, lowerWithin_sigma, lowerWithin_sigma, hsame, hface,
    facesCased_append_of_ignorable hrev, facesCased_append_of_ignorable hrev, facesCased_alpha]
  simp [facesCased]

end Filing.Text
