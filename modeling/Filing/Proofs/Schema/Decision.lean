import Filing.Schema.Checking

/-!
# What schemas decide

A schema decides a property when it finds nothing wrong exactly with the values that have it. This is said
once of every keyword; what a schema decides is then put together from its keywords.
-/

namespace Filing

/-- With this fuel, the schema has no errors for the values with the property, wherever they are, and for no
others. -/
def Schema.Decides (root : Json) (fuel : Nat) (s : Schema) (P : Json → Prop) : Prop :=
  ∀ path value, Schema.errorsAt root fuel path value s = [] ↔ P value

def Keyword.Decides (root : Json) (fuel : Nat) (k : Keyword) (P : Json → Prop) : Prop :=
  ∀ path value, Schema.keywordErrors root fuel path value k = [] ↔ P value

variable {root : Json} {fuel : Nat} {P Q : Json → Prop}

namespace Schema
variable {s : Schema} {k : Keyword} {ks : List Keyword}

theorem Decides.congr (h : s.Decides root fuel P) (hPQ : ∀ value, P value ↔ Q value) : s.Decides root fuel Q :=
  fun path value => (h path value).trans (hPQ value)

theorem decides_nil : (keywords []).Decides root (fuel + 1) fun _ => True := by
  intro path value
  simp [errorsAt]

theorem decides_cons (hk : k.Decides root fuel P) (hs : (keywords ks).Decides root (fuel + 1) Q) :
    (keywords (k :: ks)).Decides root (fuel + 1) fun value => P value ∧ Q value := by
  intro path value
  have hks := hs path value
  rw [errorsAt] at hks
  rw [errorsAt, List.flatMap_cons, List.append_eq_nil_iff, hk path value, hks]

end Schema

namespace Keyword

theorem decides_types (t : TypeName) : (types [t]).Decides root (fuel + 1) fun value => t.admits value = true := by
  intro path value
  simp [Schema.keywordErrors]

theorem decides_enumeration (options : List Json) :
    (enumeration options).Decides root (fuel + 1) fun value => ∃ o ∈ options, o.same value = true := by
  intro path value
  simp [Schema.keywordErrors]

theorem decides_least (counted : Counted) (limit : Nat) :
    (least counted limit).Decides root (fuel + 1) fun value => ∀ n, counted.of? value = some n → limit ≤ n := by
  intro path value
  cases h : counted.of? value <;> simp [Schema.keywordErrors, h]

theorem decides_required (names : List String) : (required names).Decides root (fuel + 1) fun value =>
    ∀ ms, value = .object ms → ∀ name ∈ names, ∃ x, ms.lookup name = some x := by
  intro path value
  cases value with
  | object ms =>
    simp [Schema.keywordErrors, ← Option.isSome_iff_exists, List.lookup_isSome_iff]
  | _ => simp [Schema.keywordErrors]

theorem decides_properties_nil : (properties []).Decides root (fuel + 1) fun _ => True := by
  intro path value
  simp [Schema.keywordErrors]

theorem decides_properties_cons {name : String} {s : Schema} {named : List (String × Schema)}
    (hs : s.Decides root fuel P) (h : (properties named).Decides root (fuel + 1) Q) :
    (properties ((name, s) :: named)).Decides root (fuel + 1) fun value =>
      (∀ x, (Schema.membersOf value).lookup name = some x → P x) ∧ Q value := by
  intro path value
  have hnamed := h path value
  rw [Schema.keywordErrors] at hnamed
  rw [Schema.keywordErrors, List.flatMap_cons, List.append_eq_nil_iff, hnamed]
  refine and_congr_left fun _ => ?_
  dsimp only
  cases (Schema.membersOf value).lookup name with
  | none => simp
  | some x => simpa using hs _ x

theorem decides_items {s : Schema} (h : s.Decides root fuel P) :
    (items s).Decides root (fuel + 1) fun value => ∀ x ∈ Schema.itemsOf value, P x := by
  intro path value
  rw [Schema.keywordErrors, List.flatMap_eq_nil_iff]
  constructor
  · intro hall x hx
    obtain ⟨i, hi⟩ := List.mem_iff_getElem?.mp hx
    exact (h _ x).mp (hall (x, i) (List.mem_zipIdx_iff_getElem?.mpr hi))
  · rintro hall ⟨x, i⟩ hxi
    exact (h _ x).mpr (hall x (List.mem_of_getElem? (List.mem_zipIdx_iff_getElem?.mp hxi)))

end Keyword
end Filing
