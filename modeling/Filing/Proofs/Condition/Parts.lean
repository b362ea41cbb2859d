import Filing.Condition

/-!
# The parts of a condition

A condition is a part of itself, and so is all that stands inside of it, however deep. `walk` comes by each
part and by nothing else, so the identifiers that are collected on a walk are those of the references and of
the lexicon leaves in the tree.
-/

namespace Filing.Condition

/-- The first condition is the second one or stands somewhere inside of it. -/
inductive PartOf : Condition → Condition → Prop where
  | self (c : Condition) : PartOf c c
  | and {c d : Condition} {ds : List Condition} (hd : d ∈ ds) : PartOf c d → PartOf c (.and ds)
  | or {c d : Condition} {ds : List Condition} (hd : d ∈ ds) : PartOf c d → PartOf c (.or ds)
  | not {c d : Condition} : PartOf c d → PartOf c (.not d)

namespace PartOf
variable {a b c d : Condition} {ds : List Condition}

theorem trans (hab : a.PartOf b) (hbc : b.PartOf c) : a.PartOf c := by
  induction hbc with
  | self => exact hab
  | and hd _ ih => exact .and hd ih
  | or hd _ ih => exact .or hd ih
  | not _ ih => exact .not ih

theorem leaf_iff {l : Leaf} : c.PartOf (.leaf l) ↔ c = .leaf l := by
  constructor
  · intro h
    cases h
    rfl
  · rintro rfl
    exact .self _

theorem reference_iff {id : Int} : c.PartOf (.reference id) ↔ c = .reference id := by
  constructor
  · intro h
    cases h
    rfl
  · rintro rfl
    exact .self _

theorem and_iff : c.PartOf (.and ds) ↔ c = .and ds ∨ ∃ d ∈ ds, c.PartOf d := by
  constructor
  · intro h
    cases h with
    | self => exact .inl rfl
    | and hd h => exact .inr ⟨_, hd, h⟩
  · rintro (rfl | ⟨d, hd, h⟩)
    · exact .self _
    · exact .and hd h

theorem or_iff : c.PartOf (.or ds) ↔ c = .or ds ∨ ∃ d ∈ ds, c.PartOf d := by
  constructor
  · intro h
    cases h with
    | self => exact .inl rfl
    | or hd h => exact .inr ⟨_, hd, h⟩
  · rintro (rfl | ⟨d, hd, h⟩)
    · exact .self _
    · exact .or hd h

theorem not_iff : c.PartOf (.not d) ↔ c = .not d ∨ c.PartOf d := by
  constructor
  · intro h
    cases h with
    | self => exact .inl rfl
    | not h => exact .inr h
  · rintro (rfl | h)
    · exact .self _
    · exact .not h

end PartOf

section
variable {c : Condition}

mutual

theorem mem_walk : ∀ d : Condition, c ∈ d.walk ↔ c.PartOf d
  | .leaf l => by rw [walk, List.mem_singleton, PartOf.leaf_iff]
  | .and ds => by rw [walk, List.mem_cons, mem_walkAll ds, PartOf.and_iff]
  | .or ds => by rw [walk, List.mem_cons, mem_walkAll ds, PartOf.or_iff]
  | .not d => by rw [walk, List.mem_cons, mem_walk d, PartOf.not_iff]
  | .reference id => by rw [walk, List.mem_singleton, PartOf.reference_iff]

theorem mem_walkAll : ∀ ds : List Condition, c ∈ walkAll ds ↔ ∃ d ∈ ds, c.PartOf d
  | [] => by simp [walkAll]
  | d :: ds => by
    rw [walkAll, List.mem_append, mem_walk d, mem_walkAll ds]
    simp only [List.mem_cons, exists_eq_or_imp]

end

end

variable {c : Condition} {id : Int}

theorem mem_referencedConditions : id ∈ c.referencedConditions ↔ (reference id).PartOf c := by
  rw [referencedConditions, List.mem_filterMap]
  constructor
  · rintro ⟨d, hd, hid⟩
    cases d with
    | reference i =>
      obtain rfl := Option.some.inj hid
      exact (mem_walk c).mp hd
    | _ => cases hid
  · intro h
    exact ⟨_, (mem_walk c).mpr h, rfl⟩

theorem mem_referencedLexicons : id ∈ c.referencedLexicons ↔
    ∃ field wholeValue, (leaf ⟨field, .lexicon id wholeValue⟩).PartOf c := by
  rw [referencedLexicons, List.mem_filterMap]
  constructor
  · rintro ⟨d, hd, hid⟩
    match d, hid with
    | .leaf ⟨field, .lexicon i wholeValue⟩, hid =>
      obtain rfl := Option.some.inj hid
      exact ⟨field, wholeValue, (mem_walk c).mp hd⟩
  · rintro ⟨field, wholeValue, h⟩
    exact ⟨_, (mem_walk c).mpr h, rfl⟩

end Filing.Condition
