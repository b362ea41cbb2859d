import Filing.Condition.Leaf
import Filing.Proofs.Sequence.Findings

/-!
# The default collection of a walk

The rule is that the first entry with a match decides about the default, by its nomination or by the
tie-break, and that the entries after it have no say. A walk keeps the first default that any entry
gives. The two agree except in one case: the tie-break takes nothing, so that the first entry with a
match leaves the default open, and an entry further on nominates one of its own matches.
-/

namespace Filing

namespace Walk

section
variable (judge : Collection → Verdict) (s : Snapshot)

/-- The first entry with a match, and the entries after it. -/
inductive FirstMatch : List Entry → Entry → List Entry → Prop where
  | here {e : Entry} {es : List Entry} (h : ∃ id, e.Matches judge s id) : FirstMatch (e :: es) e es
  | there {e f : Entry} {es after : List Entry} (h : ∀ id, ¬ e.Matches judge s id) :
      FirstMatch es f after → FirstMatch (e :: es) f after

/-- An entry that a walk gets to nominates this collection, which matches there. -/
inductive Nominates : List Entry → Int → Prop where
  | here {e : Entry} {es : List Entry} {id : Int} (hd : e.defaultCollectionId = some id)
      (hm : e.Matches judge s id) : Nominates (e :: es) id
  | there {e : Entry} {es : List Entry} {id : Int}
      (h : e.stopOnMatch = true → ∀ x, ¬ e.Matches judge s x) :
      Nominates es id → Nominates (e :: es) id

/-- The first entry with a match nominates none of its matches and does not stop the walk, and an entry
that the walk gets to after it nominates one of its own. -/
def Overruled (entries : List Entry) : Prop :=
  ∃ f after id, FirstMatch judge s entries f after ∧ f.NoNominee (f.Matches judge s) ∧
    f.stopOnMatch = false ∧ Nominates judge s after id

structure DefaultLaw (tieBreak : TieBreak) (entries : List Entry) (default : Option Int) : Prop where
  first : ∀ f after, FirstMatch judge s entries f after →
    f.DefaultIs tieBreak (f.Matches judge s) default
  noMatch : (∀ e ∈ entries, ∀ id, ¬ e.Matches judge s id) → default = none

end

variable {judge : Collection → Verdict} {s : Snapshot} {tieBreak : TieBreak}

theorem FirstMatch.exists_match {es after : List Entry} {f : Entry}
    (h : FirstMatch judge s es f after) : ∃ id, f.Matches judge s id := by
  induction h with
  | here h => exact h
  | there _ _ ih => exact ih

theorem firstMatch_or_noMatch (judge : Collection → Verdict) (s : Snapshot) (es : List Entry) :
    (∃ f after, FirstMatch judge s es f after) ∨ ∀ e ∈ es, ∀ id, ¬ e.Matches judge s id := by
  induction es with
  | nil => exact .inr fun e he => by cases he
  | cons e es ih =>
    by_cases h : ∃ id, e.Matches judge s id
    · exact .inl ⟨e, es, .here h⟩
    · have hn : ∀ id, ¬ e.Matches judge s id := fun id hid => h ⟨id, hid⟩
      rcases ih with ⟨f, after, hf⟩ | hes
      · exact .inl ⟨f, after, .there hn hf⟩
      · refine .inr fun e' he' => ?_
        rcases List.mem_cons.mp he' with rfl | he'
        · exact hn
        · exact hes e' he'

section
variable (tieBreak : TieBreak) (look : Entry → Findings)

def dueDefault : List Entry → Option Int
  | [] => none
  | e :: es =>
    if (look e).matched.items.isEmpty then dueDefault es else e.default? tieBreak (look e).matched

def firstDefault : List Entry → Option Int
  | [] => none
  | e :: es =>
    if (look e).matched.items.isEmpty then firstDefault es
    else match e.default? tieBreak (look e).matched with
      | some id => some id
      | none => if e.stopOnMatch then none else firstDefault es

/-- A walk that has a default keeps it, and one without takes the first that it meets. -/
theorem through_default (es : List Entry) :
    ∀ w : Walk, (w.through tieBreak look es).default =
      match w.default with
      | some id => some id
      | none => firstDefault tieBreak look es := by
  induction es with
  | nil =>
    intro w
    cases h : w.default <;> simp [through, firstDefault, h]
  | cons e es ih =>
    intro w
    simp only [through]
    cases hw : w.default with
    | some id =>
      have hr : (w.record tieBreak e (look e)).default = some id := by simp [record, hw]
      split
      · exact hr
      · rw [ih, hr]
    | none =>
      simp only [firstDefault]
      cases hm : (look e).matched.items.isEmpty with
      | true =>
        have hr : (w.record tieBreak e (look e)).default = none := by simp [record, hw, hm]
        simp only [Bool.not_true, Bool.and_false, Bool.false_eq_true, if_false, if_true]
        rw [ih, hr]
      | false =>
        have hr : (w.record tieBreak e (look e)).default = e.default? tieBreak (look e).matched := by
          simp [record, hw, hm]
        simp only [Bool.not_false, Bool.and_true, Bool.false_eq_true, if_false]
        cases hd : e.default? tieBreak (look e).matched with
        | some id =>
          split
          · exact hr.trans hd
          · rw [ih, hr, hd]
        | none =>
          split
          · exact hr.trans hd
          · rw [ih, hr, hd]

end

theorem dueDefault_of_firstMatch {es after : List Entry} {f : Entry}
    (h : FirstMatch judge s es f after) :
    dueDefault tieBreak (Entry.findings judge s) es =
      f.default? tieBreak (f.findings judge s).matched := by
  induction h with
  | @here e es h =>
    obtain ⟨id, hid⟩ := h
    rw [dueDefault, if_neg fun he => Entry.matched_isEmpty_iff.mp he id hid]
  | there h _ ih => rw [dueDefault, if_pos (Entry.matched_isEmpty_iff.mpr h), ih]

theorem dueDefault_of_noMatch {es : List Entry} (h : ∀ e ∈ es, ∀ id, ¬ e.Matches judge s id) :
    dueDefault tieBreak (Entry.findings judge s) es = none := by
  induction es with
  | nil => rfl
  | cons e es ih =>
    rw [dueDefault, if_pos (Entry.matched_isEmpty_iff.mpr (h e List.mem_cons_self))]
    exact ih fun e' he' => h e' (List.mem_cons_of_mem e he')

theorem defaultLaw_iff {es : List Entry} {default : Option Int} :
    DefaultLaw judge s tieBreak es default ↔
      dueDefault tieBreak (Entry.findings judge s) es = default := by
  constructor
  · intro h
    rcases firstMatch_or_noMatch judge s es with ⟨f, after, hf⟩ | hn
    · rw [dueDefault_of_firstMatch hf]
      exact (Entry.default?_eq_iff_matches hf.exists_match default).mpr (h.first f after hf)
    · rw [dueDefault_of_noMatch hn, h.noMatch hn]
  · intro h
    refine ⟨fun f after hf => ?_, fun hn => ?_⟩
    · rw [dueDefault_of_firstMatch hf] at h
      exact (Entry.default?_eq_iff_matches hf.exists_match default).mp h
    · rw [← h, dueDefault_of_noMatch hn]

theorem firstDefault_of_firstMatch {es after : List Entry} {f : Entry}
    (h : FirstMatch judge s es f after) :
    firstDefault tieBreak (Entry.findings judge s) es =
      match f.default? tieBreak (f.findings judge s).matched with
      | some id => some id
      | none =>
        if f.stopOnMatch then none
        else firstDefault tieBreak (Entry.findings judge s) after := by
  induction h with
  | @here e es h =>
    obtain ⟨id, hid⟩ := h
    rw [firstDefault, if_neg fun he => Entry.matched_isEmpty_iff.mp he id hid]
  | there h _ ih => rw [firstDefault, if_pos (Entry.matched_isEmpty_iff.mpr h), ih]

theorem firstDefault_of_noMatch {es : List Entry} (h : ∀ e ∈ es, ∀ id, ¬ e.Matches judge s id) :
    firstDefault tieBreak (Entry.findings judge s) es = none := by
  induction es with
  | nil => rfl
  | cons e es ih =>
    rw [firstDefault, if_pos (Entry.matched_isEmpty_iff.mpr (h e List.mem_cons_self))]
    exact ih fun e' he' => h e' (List.mem_cons_of_mem e he')

theorem firstDefault_eq_none_iff {es : List Entry} :
    firstDefault .none (Entry.findings judge s) es = none ↔ ∀ id, ¬ Nominates judge s es id := by
  induction es with
  | nil =>
    constructor
    · intro _ id h
      cases h
    · exact fun _ => rfl
  | cons e es ih =>
    by_cases hm : ∃ id, e.Matches judge s id
    · rw [firstDefault_of_firstMatch (.here hm)]
      cases hd : e.default? .none (e.findings judge s).matched with
      | some id =>
        have hdi := (Entry.default?_eq_iff_matches hm (some id)).mp hd
        rcases hdi with ⟨x, hx, hxm, _⟩ | ⟨_, h⟩
        · constructor
          · intro h
            cases h
          · exact fun h => absurd (Nominates.here hx hxm) (h x)
        · cases h
      | none =>
        have hn := ((Entry.default?_eq_none_iff hm).mp hd).2
        constructor
        · intro h id hnom
          cases hnom with
          | here hd hm => exact hn id hd hm
          | there hs hnom =>
            obtain ⟨x, hx⟩ := hm
            have hgo : ¬ e.stopOnMatch = true := fun h => hs h x hx
            exact ih.mp ((if_neg hgo).symm.trans h) id hnom
        · intro h
          by_cases hs : e.stopOnMatch = true
          · exact if_pos hs
          · refine (if_neg hs).trans (ih.mpr fun id hnom => ?_)
            exact h id (.there (fun h => absurd h hs) hnom)
    · have hn : ∀ id, ¬ e.Matches judge s id := fun id hid => hm ⟨id, hid⟩
      rw [firstDefault, if_pos (Entry.matched_isEmpty_iff.mpr hn), ih]
      constructor
      · intro h id hnom
        cases hnom with
        | here _ hm => exact hn id hm
        | there _ hnom => exact h id hnom
      · exact fun h id hnom => h id (.there (fun _ => hn) hnom)

theorem due_ne_firstDefault_of_overruled {es : List Entry} (h : Overruled judge s es) :
    dueDefault .none (Entry.findings judge s) es ≠ firstDefault .none (Entry.findings judge s) es := by
  obtain ⟨f, after, id, hf, hn, hs, hnom⟩ := h
  have hd := (Entry.default?_eq_none_iff hf.exists_match).mpr ⟨rfl, hn⟩
  rw [dueDefault_of_firstMatch hf, firstDefault_of_firstMatch hf, hd, hs]
  exact fun h => firstDefault_eq_none_iff.mp h.symm id hnom

theorem dueDefault_eq_firstDefault {es : List Entry}
    (h : ¬ (tieBreak = .none ∧ Overruled judge s es)) :
    dueDefault tieBreak (Entry.findings judge s) es =
      firstDefault tieBreak (Entry.findings judge s) es := by
  rcases firstMatch_or_noMatch judge s es with ⟨f, after, hf⟩ | hn
  · rw [dueDefault_of_firstMatch hf, firstDefault_of_firstMatch hf]
    cases hd : f.default? tieBreak (f.findings judge s).matched with
    | some id => rfl
    | none =>
      obtain ⟨rfl, hn⟩ := (Entry.default?_eq_none_iff hf.exists_match).mp hd
      cases hs : f.stopOnMatch with
      | true => rfl
      | false =>
        refine (firstDefault_eq_none_iff.mpr fun id hnom => ?_).symm
        exact h ⟨rfl, f, after, id, hf, hn, hs, hnom⟩
  · rw [dueDefault_of_noMatch hn, firstDefault_of_noMatch hn]

end Walk

namespace Sequence

/-- The default of a walk follows the rule exactly where the tie-break takes some collection, or no
later entry overrules the one that decides. -/
theorem walk_default_lawful_iff (tieBreak : TieBreak) (leaf : Leaf → Verdict) (limit : Nat)
    (s : Snapshot) (q : Sequence) :
    Walk.DefaultLaw (Collection.evaluate leaf s limit) s tieBreak q.entries
        (q.walk tieBreak leaf limit s).default ↔
      ¬ (tieBreak = .none ∧ Walk.Overruled (Collection.evaluate leaf s limit) s q.entries) := by
  have hw : (q.walk tieBreak leaf limit s).default =
      Walk.firstDefault tieBreak (Entry.findings (Collection.evaluate leaf s limit) s) q.entries :=
    Walk.through_default tieBreak _ q.entries Walk.start
  rw [Walk.defaultLaw_iff, hw]
  constructor
  · rintro h ⟨rfl, ho⟩
    exact Walk.due_ne_firstDefault_of_overruled ho h
  · exact Walk.dueDefault_eq_firstDefault

def rivals : Configuration where
  sequences := [⟨1, "rivals", none,
    [⟨1, false, .ofList [1], none⟩, ⟨2, false, .ofList [2], some 2⟩]⟩]
  collections := [⟨1, "first", none, .leaf ⟨"title", .present⟩, .empty⟩,
    ⟨2, "second", none, .leaf ⟨"title", .present⟩, .empty⟩]

/-- Without a tie-break the first entry leaves the default open, and the second one sets it. -/
theorem walk_default_of_rivals :
    ∃ s q, Snapshot.build rivals none = .ok s ∧ s.sequence? 1 = some q ∧
      ∃ d : Document, (q.walk .none (Leaf.evaluate s d) 32 s).default = some 2 ∧
        ¬ Walk.DefaultLaw (Collection.evaluate (Leaf.evaluate s d) s 32) s .none q.entries
          (q.walk .none (Leaf.evaluate s d) 32 s).default := by
  refine ⟨_, _, rfl, rfl, (Document.new "report").addValue "title" "Report", ?_, ?_⟩
  · decide
  · rw [Walk.defaultLaw_iff]
    decide

end Sequence

end Filing
