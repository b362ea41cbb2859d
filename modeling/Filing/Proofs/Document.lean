import Filing.Proofs.Index
import Filing.Snapshot

/-!
# Values of fields

What is stored for a field is what its values are from then on; every other field keeps its values. A document grows
when values are added to it: what it had, it still has. A leaf looks at the values of the fields that its name stands
for, one after the other.
-/

namespace Filing

namespace Document
variable {d d' d'' : Document}

def stored? (d : Document) (field : String) : Option (List String) := (d.fields.get? field).map Prod.snd

theorem values_eq_stored? (d : Document) (field : String) : d.values field = (d.stored? field).getD [] := by
  rw [values, stored?]
  cases d.fields.get? field <;> rfl

theorem contains_iff_stored? {field : String} :
    d.fields.contains field = true ↔ (d.stored? field).isSome = true := by
  rw [Index.contains, stored?, Option.isSome_map]

theorem stored?_insert (d : Document) (name : String) (vs : List String) (field : String) :
    stored? { d with fields := d.fields.insert (name, vs) } field =
      if field = name then some vs else d.stored? field := by
  rw [stored?, Index.get?_insert]
  split <;> rfl

theorem ext_of_stored? (hreference : d.reference = d'.reference) (h : ∀ field, d.stored? field = d'.stored? field) :
    d = d' := by
  have hmem : ∀ (d : Document) (z : String × List String), z ∈ d.fields.items ↔ d.stored? z.1 = some z.2 := by
    intro d z
    rw [stored?, Option.map_eq_some_iff]
    constructor
    · exact fun hz => ⟨z, Index.get?_eq_some_iff.mpr ⟨hz, rfl⟩, rfl⟩
    · rintro ⟨y, hy, hvs⟩
      obtain ⟨hy, hname⟩ := Index.get?_eq_some_iff.mp hy
      rwa [← Prod.ext hname hvs]
  have hfields : d.fields = d'.fields := Index.ext_of_mem fun z => by rw [hmem, hmem, h]
  cases d
  cases d'
  congr

theorem stored?_eq_of_values {field : String}
    (hpresent : d.fields.contains field = true ↔ d'.fields.contains field = true)
    (hvalues : d.values field = d'.values field) : d.stored? field = d'.stored? field := by
  rw [contains_iff_stored?, contains_iff_stored?] at hpresent
  rw [values_eq_stored?, values_eq_stored?] at hvalues
  cases h : d.stored? field with
  | none =>
    have hnone : ¬ (d'.stored? field).isSome = true := by simpa [h] using hpresent
    exact (Option.not_isSome_iff_eq_none.mp hnone).symm
  | some vs =>
    obtain ⟨vs', h'⟩ := Option.isSome_iff_exists.mp (hpresent.mp (by rw [h]; rfl))
    rw [h, h', Option.getD_some, Option.getD_some] at hvalues
    rw [h', hvalues]

theorem values_insert (d : Document) (name : String) (vs : List String) (field : String) :
    values { d with fields := d.fields.insert (name, vs) } field = if field = name then vs else d.values field := by
  rw [values_eq_stored?, stored?_insert, values_eq_stored?]
  split <;> rfl

theorem values_setField (d : Document) (name value : String) :
    (d.setField name value).values name = [value] := by
  rw [setField, values_insert, if_pos rfl]

/-- All values of the first document are values of the same fields of the second one. -/
def Within (d d' : Document) : Prop := ∀ field, d.values field ⊆ d'.values field

theorem Within.trans (h : d.Within d') (h' : d'.Within d'') : d.Within d'' :=
  fun field => List.Subset.trans (h field) (h' field)

end Document

namespace Snapshot
variable {s : Snapshot} {d d' : Document} {field value : String}

/-- What a name stands for: a label for the fields that it lists, even where a field or another label has one of
these names, and any other name for the field of that name. -/
inductive StandsFor (s : Snapshot) : String → String → Prop where
  | listed {label : FieldLabel} {name field : String} (h : s.fieldLabel? name = some label)
      (hf : field ∈ label.fields) : StandsFor s name field
  | itself {name : String} (h : s.fieldLabel? name = none) : StandsFor s name name

end Snapshot

end Filing
