import Filing.Proofs.Double.Integers
import Filing.Proofs.Json.Text

/-!
# Values as texts hold them

The numbers of a text are integers of 64 bits and finite doubles. Values with such numbers are written as they are.
-/

namespace Filing

namespace Json

/-- All integers in the value have 64 bits, with or without a sign, and all doubles are finite. -/
inductive Proper : Json → Prop where
  | null : Proper .null
  | bool (b : Bool) : Proper (.bool b)
  | int {n : Int} (fits : isSigned 64 n = true ∨ isUnsigned 64 n = true) : Proper (.int n)
  | double {x : Double} (finite : x.isFinite = true) : Proper (.double x)
  | string (s : String) : Proper (.string s)
  | array {xs : List Json} (items : ∀ x ∈ xs, x.Proper) : Proper (.array xs)
  | object {ms : List (String × Json)} (members : ∀ m ∈ ms, m.2.Proper) : Proper (.object ms)

theorem writtenMembers_eq_map (ms : List (String × Json)) :
    writtenMembers ms = ms.map fun m => (m.1, m.2.written) := by
  induction ms with
  | nil => rfl
  | cons m ms ih => rw [writtenMembers, ih, List.map_cons]

namespace Proper

theorem written_eq {v : Json} (h : v.Proper) : v.written = v := by
  induction h with
  | null => rfl
  | bool b => rfl
  | int fits => rfl
  | double finite => rw [written, if_pos finite]
  | string s => rfl
  | array items ih =>
    rw [written_array, writtenItems_eq_map]
    exact congrArg Json.array ((List.map_congr_left ih).trans (List.map_id' _))
  | object members ih =>
    rw [written_object, writtenMembers_eq_map]
    refine congrArg Json.object ((List.map_congr_left fun m hm => ?_).trans (List.map_id' _))
    rw [ih m hm]

theorem empty : (Json.array []).Proper := .array fun _ hx => absurd hx List.not_mem_nil

theorem empty_object : (Json.object []).Proper := .object fun _ hm => absurd hm List.not_mem_nil

theorem item {xs : List Json} (h : (Json.array xs).Proper) {x : Json} (hx : x ∈ xs) : x.Proper := by
  cases h with
  | array items => exact items x hx

theorem member {ms : List (String × Json)} (h : (Json.object ms).Proper) {m : String × Json} (hm : m ∈ ms) :
    m.2.Proper := by
  cases h with
  | object members => exact members m hm

theorem strings (xs : List String) : (Json.strings xs).Proper := by
  refine .array fun x hx => ?_
  obtain ⟨s, -, rfl⟩ := List.mem_map.mp hx
  exact .string s

theorem isFinite_ofInt {n : Int} (h : (Json.int n).Proper) : (Double.ofInt n).isFinite = true := by
  refine Double.isFinite_ofInt ?_
  have hbound : Nat.pow 2 64 = 18446744073709551616 := rfl
  cases h with
  | int fits =>
    rcases fits with fits | fits
    · simp only [isSigned, Bool.and_eq_true, decide_eq_true_eq] at fits
      have hpow : (Nat.pow 2 (64 - 1) : Int) = 9223372036854775808 := rfl
      omega
    · simp only [isUnsigned, Bool.and_eq_true, decide_eq_true_eq] at fits
      have hpow : (Nat.pow 2 64 : Int) = 18446744073709551616 := rfl
      omega

end Proper

mutual

def isProper : Json → Bool
  | .int n => isSigned 64 n || isUnsigned 64 n
  | .double x => x.isFinite
  | .array xs => allProper xs
  | .object ms => allMembersProper ms
  | _ => true

def allProper : List Json → Bool
  | [] => true
  | x :: xs => isProper x && allProper xs

def allMembersProper : List (String × Json) → Bool
  | [] => true
  | (_, x) :: ms => isProper x && allMembersProper ms

end

mutual

theorem proper_of_isProper : ∀ v : Json, v.isProper = true → v.Proper
  | .null, _ => .null
  | .bool b, _ => .bool b
  | .int n, h => by
    rw [isProper, Bool.or_eq_true] at h
    exact .int h
  | .double x, h => .double h
  | .string s, _ => .string s
  | .array xs, h => .array (proper_of_allProper xs h)
  | .object ms, h => .object (proper_of_allMembersProper ms h)

theorem proper_of_allProper : ∀ xs : List Json, allProper xs = true → ∀ x ∈ xs, x.Proper
  | [], _ => fun _ hx => absurd hx List.not_mem_nil
  | x :: xs, h => by
    rw [allProper, Bool.and_eq_true] at h
    exact List.forall_mem_cons.mpr ⟨proper_of_isProper x h.1, proper_of_allProper xs h.2⟩

theorem proper_of_allMembersProper : ∀ ms : List (String × Json), allMembersProper ms = true → ∀ m ∈ ms, m.2.Proper
  | [], _ => fun _ hm => absurd hm List.not_mem_nil
  | (k, x) :: ms, h => by
    rw [allMembersProper, Bool.and_eq_true] at h
    exact List.forall_mem_cons.mpr ⟨proper_of_isProper x h.1, proper_of_allMembersProper ms h.2⟩

end

def present (fields : List (String × Option Json)) : List (String × Json) :=
  fields.filterMap fun f => f.2.map (f.1, ·)

theorem Proper.present {fields : List (String × Option Json)} (h : ∀ f ∈ fields, ∀ x ∈ f.2, x.Proper) :
    (Json.object (Json.present fields)).Proper := by
  refine .object fun m hm => ?_
  obtain ⟨f, hf, he⟩ := List.mem_filterMap.mp hm
  obtain ⟨x, hx, rfl⟩ := Option.map_eq_some_iff.mp he
  exact h f hf x hx

end Json

end Filing
