import Filing.Proofs.Condition.Parts
import Filing.Snapshot

/-!
# What references lead to

A condition reaches all that stands inside of it and inside of the shared conditions that its references lead to,
however many they have to follow. Whether a condition has some property everywhere, so that no evaluation of it can
come by anything else, is told from what it reaches: `and_iff` and the lemmas beside it take a condition apart.
-/

namespace Filing.Snapshot

/-- The second condition is a part of the first one, or of a shared condition that a chain of references
leads to from it. -/
inductive Reaches (s : Snapshot) : Condition → Condition → Prop where
  | part {c d : Condition} (h : d.PartOf c) : Reaches s c d
  | refer {c d target : Condition} {id : Int} (h : (Condition.reference id).PartOf c)
      (ht : s.condition? id = some target) : Reaches s target d → Reaches s c d

namespace Reaches
variable {s : Snapshot} {b c d target : Condition} {cs : List Condition} {id : Int}

theorem of_part (hd : d.PartOf c) (h : s.Reaches d b) : s.Reaches c b := by
  cases h with
  | part h => exact .part (h.trans hd)
  | refer h ht hb => exact .refer (h.trans hd) ht hb

theorem leaf_iff {l : Leaf} : s.Reaches (.leaf l) d ↔ d = .leaf l := by
  constructor
  · intro h
    cases h with
    | part h => exact Condition.PartOf.leaf_iff.mp h
    | refer h => cases Condition.PartOf.leaf_iff.mp h
  · rintro rfl
    exact .part (.self _)

theorem reference_iff : s.Reaches (.reference id) d ↔
    d = .reference id ∨ ∃ target, s.condition? id = some target ∧ s.Reaches target d := by
  constructor
  · intro h
    cases h with
    | part h => exact .inl (Condition.PartOf.reference_iff.mp h)
    | refer h ht hd =>
      cases Condition.PartOf.reference_iff.mp h
      exact .inr ⟨_, ht, hd⟩
  · rintro (rfl | ⟨target, ht, hd⟩)
    · exact .part (.self _)
    · exact .refer (.self _) ht hd

theorem iff_inner {inner : List Condition}
    (hinner : ∀ d : Condition, d.PartOf c ↔ d = c ∨ ∃ x ∈ inner, d.PartOf x)
    (hc : ∀ id, Condition.reference id ≠ c) :
    s.Reaches c d ↔ d = c ∨ ∃ x ∈ inner, s.Reaches x d := by
  constructor
  · intro h
    cases h with
    | part h =>
      rcases (hinner d).mp h with rfl | ⟨x, hx, h⟩
      · exact .inl rfl
      · exact .inr ⟨x, hx, .part h⟩
    | refer h ht hd =>
      obtain ⟨x, hx, h⟩ := ((hinner _).mp h).resolve_left (hc _)
      exact .inr ⟨x, hx, .refer h ht hd⟩
  · rintro (rfl | ⟨x, hx, hd⟩)
    · exact .part (.self _)
    · exact hd.of_part ((hinner x).mpr (.inr ⟨x, hx, .self x⟩))

theorem and_iff : s.Reaches (.and cs) d ↔ d = .and cs ∨ ∃ c ∈ cs, s.Reaches c d :=
  iff_inner (fun _ => Condition.PartOf.and_iff) fun _ => by simp

theorem or_iff : s.Reaches (.or cs) d ↔ d = .or cs ∨ ∃ c ∈ cs, s.Reaches c d :=
  iff_inner (fun _ => Condition.PartOf.or_iff) fun _ => by simp

theorem not_iff : s.Reaches (.not c) d ↔ d = .not c ∨ s.Reaches c d := by
  have hinner : ∀ d : Condition, d.PartOf (.not c) ↔ d = .not c ∨ ∃ x ∈ [c], d.PartOf x := by
    intro d
    simp only [Condition.PartOf.not_iff, List.mem_singleton, exists_eq_left]
  rw [iff_inner hinner fun _ => by simp]
  simp only [List.mem_singleton, exists_eq_left]

end Reaches

end Filing.Snapshot
