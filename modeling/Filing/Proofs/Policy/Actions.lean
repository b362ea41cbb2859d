import Filing.Policy.FieldAction
import Filing.Proofs.Document

/-!
# What a list of actions leaves behind

Each action writes one field and leaves all others as they are, so what is stored for a field in the end comes from
the actions on this field alone, in their order. The last of them that sets the field wipes out what was there before;
the values that are added after it stay. How actions on different fields are mixed does not matter.
-/

namespace Filing.FieldAction

variable {d d' d'' : Document} {a : FieldAction} {actions before after : List FieldAction} {field : String}

/-- The list that an action stores for its field in the place of the one that is there. -/
def write (stored : Option (List String)) (a : FieldAction) : List String :=
  match a.kind with
  | .set => [a.value]
  | .add => stored.getD [] ++ [a.value]

theorem stored?_apply (a : FieldAction) (d : Document) (field : String) :
    (a.apply d).stored? field = if field = a.name then some (a.write (d.stored? field)) else d.stored? field := by
  cases h : a.kind with
  | set => simp only [apply, h, Document.setField, Document.stored?_insert, write]
  | add =>
    simp only [apply, h, Document.addValue, Document.stored?_insert, write, Document.values_eq_stored?]
    by_cases hname : field = a.name
    · rw [hname]
    · rw [if_neg hname, if_neg hname]

theorem reference_apply (a : FieldAction) (d : Document) : (a.apply d).reference = d.reference := by
  cases h : a.kind <;> simp only [apply, h, Document.setField, Document.addValue]

def on (field : String) (actions : List FieldAction) : List FieldAction :=
  actions.filter fun a => a.name = field

/-- A run of actions writes a field as the actions on it do. -/
theorem stored?_applyAll (actions : List FieldAction) (d : Document) (field : String) :
    (applyAll d actions).stored? field =
      (on field actions).foldl (fun stored a => some (a.write stored)) (d.stored? field) := by
  induction actions generalizing d with
  | nil => rfl
  | cons a actions ih =>
    change (applyAll (a.apply d) actions).stored? field = _
    rw [ih, stored?_apply, on, on, List.filter_cons]
    by_cases hname : a.name = field
    · rw [if_pos hname.symm, if_pos (decide_eq_true hname), List.foldl_cons]
    · rw [if_neg (Ne.symm hname), if_neg (by simpa using hname)]

theorem reference_applyAll (actions : List FieldAction) (d : Document) :
    (applyAll d actions).reference = d.reference := by
  induction actions generalizing d with
  | nil => rfl
  | cons a actions ih => exact (ih (a.apply d)).trans (reference_apply a d)

theorem on_eq_nil_iff : on field actions = [] ↔ ∀ a ∈ actions, a.name ≠ field := by
  simp [on]

theorem stored?_applyAll_of_unnamed (h : ∀ a ∈ actions, a.name ≠ field) :
    (applyAll d actions).stored? field = d.stored? field := by
  rw [stored?_applyAll, on_eq_nil_iff.mpr h, List.foldl_nil]

theorem isSome_stored?_applyAll :
    ((applyAll d actions).stored? field).isSome = true ↔
      (d.stored? field).isSome = true ∨ ∃ a ∈ actions, a.name = field := by
  have hwritten : ∀ (bs : List FieldAction) (vs : List String),
      (bs.foldl (fun stored a => some (a.write stored)) (some vs)).isSome = true := by
    intro bs
    induction bs with
    | nil => exact fun _ => rfl
    | cons b bs ih => exact fun vs => ih (b.write (some vs))
  by_cases hnamed : ∃ a ∈ actions, a.name = field
  · rw [stored?_applyAll]
    cases hon : on field actions with
    | nil =>
      obtain ⟨a, ha, hname⟩ := hnamed
      exact absurd hname (on_eq_nil_iff.mp hon a ha)
    | cons b bs => exact iff_of_true (hwritten bs _) (.inr hnamed)
  · rw [stored?_applyAll_of_unnamed fun a ha hname => hnamed ⟨a, ha, hname⟩]
    exact (or_iff_left hnamed).symm

def Sets (field : String) (a : FieldAction) : Prop := a.name = field ∧ a.kind = .set

instance : Decidable (a.Sets field) := inferInstanceAs (Decidable (_ ∧ _))

def added (field : String) (actions : List FieldAction) : List String :=
  (actions.filter fun a => a.name = field ∧ a.kind = .add).map FieldAction.value

theorem values_applyAll_of_not_sets (h : ∀ a ∈ actions, ¬ a.Sets field) :
    (applyAll d actions).values field = d.values field ++ added field actions := by
  induction actions generalizing d with
  | nil => exact (List.append_nil _).symm
  | cons a actions ih =>
    change (applyAll (a.apply d) actions).values field = _
    rw [ih fun b hb => h b (List.mem_cons_of_mem a hb), Document.values_eq_stored?, stored?_apply, added, added,
      List.filter_cons, Document.values_eq_stored?]
    by_cases hname : a.name = field
    · have hkind : a.kind = .add := by
        cases hk : a.kind with
        | set => exact absurd ⟨hname, hk⟩ (h a List.mem_cons_self)
        | add => rfl
      simp [hname, hkind, write]
    · simp [hname, Ne.symm hname]

theorem values_applyAll_of_sets (ha : a.Sets field) (hafter : ∀ b ∈ after, ¬ b.Sets field) :
    (applyAll d (before ++ a :: after)).values field = a.value :: added field after := by
  obtain ⟨rfl, hkind⟩ := ha
  have hset : (a.apply (applyAll d before)).values a.name = [a.value] := by
    rw [apply, hkind, Document.values_setField]
  rw [applyAll, List.foldl_append, List.foldl_cons]
  change (applyAll (a.apply (applyAll d before)) after).values a.name = _
  rw [values_applyAll_of_not_sets hafter, hset, List.singleton_append]

theorem not_sets_or_last_set (field : String) (actions : List FieldAction) :
    (∀ a ∈ actions, ¬ a.Sets field) ∨
      ∃ before a after, actions = before ++ a :: after ∧ a.Sets field ∧ ∀ b ∈ after, ¬ b.Sets field := by
  induction actions with
  | nil => exact .inl (List.forall_mem_nil _)
  | cons a actions ih =>
    rcases ih with hnone | ⟨before, b, after, rfl, hb, hafter⟩
    · by_cases ha : a.Sets field
      · exact .inr ⟨[], a, actions, rfl, ha, hnone⟩
      · exact .inl (List.forall_mem_cons.mpr ⟨ha, hnone⟩)
    · exact .inr ⟨a :: before, b, after, rfl, hb, hafter⟩

/-- A document is as the actions write it, from how another one was. -/
structure Written (d : Document) (actions : List FieldAction) (d' : Document) : Prop where
  reference : d'.reference = d.reference
  added : ∀ field, (∀ a ∈ actions, ¬ a.Sets field) → d'.values field = d.values field ++ added field actions
  set : ∀ field before a after, actions = before ++ a :: after → a.Sets field → (∀ b ∈ after, ¬ b.Sets field) →
    d'.values field = a.value :: FieldAction.added field after
  present : ∀ field, d'.fields.contains field = true ↔
    d.fields.contains field = true ∨ ∃ a ∈ actions, a.name = field
  unnamed : ∀ field, (∀ a ∈ actions, a.name ≠ field) → d'.stored? field = d.stored? field

theorem written_applyAll (d : Document) (actions : List FieldAction) : Written d actions (applyAll d actions) where
  reference := reference_applyAll actions d
  added _ := values_applyAll_of_not_sets
  set _ _ _ _ he := he ▸ values_applyAll_of_sets
  present field := by
    rw [Document.contains_iff_stored?, Document.contains_iff_stored?, isSome_stored?_applyAll]
  unnamed _ := stored?_applyAll_of_unnamed

namespace Written

theorem values_eq (h : Written d actions d') (h' : Written d actions d'') (field : String) :
    d'.values field = d''.values field := by
  rcases not_sets_or_last_set field actions with hnone | ⟨before, a, after, he, ha, hafter⟩
  · rw [h.added field hnone, h'.added field hnone]
  · rw [h.set field before a after he ha hafter, h'.set field before a after he ha hafter]

theorem unique (h : Written d actions d') (h' : Written d actions d'') : d' = d'' := by
  apply Document.ext_of_stored? (h.reference.trans h'.reference.symm)
  intro field
  have hpresent := (h.present field).trans (h'.present field).symm
  exact Document.stored?_eq_of_values hpresent (h.values_eq h' field)

end Written

/-- It does not matter how actions on different fields are mixed. -/
theorem applyAll_of_on_eq {actions' : List FieldAction} (h : ∀ field, on field actions' = on field actions) :
    applyAll d actions' = applyAll d actions := by
  apply Document.ext_of_stored?
  · rw [reference_applyAll, reference_applyAll]
  · intro field
    rw [stored?_applyAll, stored?_applyAll, h]

theorem applyAll_normalForm (d : Document) (actions : List FieldAction) :
    (∀ d', Written d actions d' ↔ d' = applyAll d actions) ∧
      ∀ actions', (∀ field, on field actions' = on field actions) → applyAll d actions' = applyAll d actions := by
  refine ⟨fun d' => ?_, fun _ => applyAll_of_on_eq⟩
  constructor
  · exact fun h => h.unique (written_applyAll d actions)
  · rintro rfl
    exact written_applyAll d actions

def tagging : List FieldAction :=
  [⟨"tag", .add, "urgent"⟩, ⟨"title", .set, "Invoice"⟩, ⟨"tag", .set, "paid"⟩, ⟨"owner", .add, "sales"⟩,
    ⟨"tag", .add, "filed"⟩]

theorem applyAll_normalForm_of_tagging : ∃ d actions, actions ≠ tagging ∧
    (∀ field, on field actions = on field tagging) ∧ applyAll d actions = applyAll d tagging ∧
      d.values "tag" = ["new"] ∧ (applyAll d tagging).values "tag" = ["paid", "filed"] := by
  let actions := on "owner" tagging ++ on "tag" tagging ++ on "title" tagging
  have hon : ∀ field, on field actions = on field tagging := by
    intro field
    by_cases howner : field = "owner"
    · subst howner
      decide
    · by_cases htag : field = "tag"
      · subst htag
        decide
      · simp [actions, on, tagging, List.filter_cons, Ne.symm howner, Ne.symm htag]
  have hd := applyAll_normalForm ((Document.new "memo").addValue "tag" "new") tagging
  refine ⟨_, actions, by decide, hon, hd.2 actions hon, by decide, ?_⟩
  exact ((hd.1 _).mpr rfl).set "tag" (tagging.take 2) ⟨"tag", .set, "paid"⟩ (tagging.drop 3) rfl (by decide) (by decide)

end Filing.FieldAction
