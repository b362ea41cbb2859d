import Filing.Node.Reading
import Filing.Proofs.Index

/-!
# One member for each name

The members of an object are a list here, which could hold two with one name. No reader gives such an
object: `Node.distinct_of_json?`. Where names are distinct it does not matter which member with a name is
taken, the first one or the last.
-/

namespace Filing

namespace Json

/-- No object in the value has two members with one name. -/
inductive Distinct : Json → Prop where
  | null : Distinct .null
  | bool (b : Bool) : Distinct (.bool b)
  | int (n : Int) : Distinct (.int n)
  | double (x : Double) : Distinct (.double x)
  | string (s : String) : Distinct (.string s)
  | array {xs : List Json} (items : ∀ x ∈ xs, x.Distinct) : Distinct (.array xs)
  | object {ms : List (String × Json)} (names : (ms.map Prod.fst).Nodup) (members : ∀ m ∈ ms, m.2.Distinct) :
      Distinct (.object ms)

theorem eq_of_mem {ms : List (String × Json)} (hn : (ms.map Prod.fst).Nodup) {name : String} {x y : Json}
    (hx : (name, x) ∈ ms) (hy : (name, y) ∈ ms) : y = x := by
  have hpair : (name, y) = (name, x) := List.inj_on_of_nodup_map hn hy hx rfl
  exact (Prod.mk.inj hpair).2

theorem distinct_ofMembers {ms : List (String × Json)} (h : ∀ m ∈ ms, m.2.Distinct) : (ofMembers ms).Distinct :=
  .object (Index.keys_nodup _) fun m hm => h m (Index.mem_of_mem_ofList hm)

end Json

namespace Node

mutual

theorem distinct_of_json? : ∀ (node : Node) (x : Json), node.json? = some x → x.Distinct := by
  intro node x h
  match node with
  | .scalar y =>
    simp only [json?] at h
    split at h <;> first
      | cases h; done
      | obtain rfl := Option.some.inj h
        first | constructor | (split <;> constructor)
  | .sequence false positional xs =>
    obtain ⟨ys, hys, rfl⟩ := Option.map_eq_some_iff.mp h
    exact .array (distinct_of_jsonItems? xs ys hys)
  | .mapping false ms =>
    obtain ⟨ns, hns, rfl⟩ := Option.map_eq_some_iff.mp h
    exact Json.distinct_ofMembers (distinct_of_jsonMembers? ms ns hns)
  | .sequence true _ _ | .mapping true _ | .unreadable => cases h
  | .null | .bool _ | .int _ | .text _ =>
    obtain rfl := Option.some.inj h
    constructor
  | .double y =>
    obtain rfl := Option.some.inj h
    split <;> constructor

theorem distinct_of_jsonItems? : ∀ (nodes : List Node) (xs : List Json), jsonItems? nodes = some xs →
    ∀ x ∈ xs, x.Distinct := by
  intro nodes xs h
  match nodes with
  | [] =>
    obtain rfl := Option.some.inj h
    exact fun x hx => absurd hx List.not_mem_nil
  | node :: nodes =>
    obtain ⟨y, hy, h⟩ := Option.bind_eq_some_iff.mp h
    obtain ⟨ys, hys, h⟩ := Option.bind_eq_some_iff.mp h
    obtain rfl := Option.some.inj h
    intro x hx
    rcases List.mem_cons.mp hx with rfl | hx
    · exact distinct_of_json? node x hy
    · exact distinct_of_jsonItems? nodes ys hys x hx

theorem distinct_of_jsonMembers? : ∀ (nodes : List (Node × Node)) (ms : List (String × Json)),
    jsonMembers? nodes = some ms → ∀ m ∈ ms, m.2.Distinct := by
  intro nodes ms h
  match nodes with
  | [] =>
    obtain rfl := Option.some.inj h
    exact fun m hm => absurd hm List.not_mem_nil
  | (_, node) :: nodes =>
    obtain ⟨k, -, h⟩ := Option.bind_eq_some_iff.mp h
    obtain ⟨y, hy, h⟩ := Option.bind_eq_some_iff.mp h
    obtain ⟨ns, hns, h⟩ := Option.bind_eq_some_iff.mp h
    obtain rfl := Option.some.inj h
    intro m hm
    rcases List.mem_cons.mp hm with rfl | hm
    · exact distinct_of_json? node y hy
    · exact distinct_of_jsonMembers? nodes ns hns m hm

end

end Node

end Filing
