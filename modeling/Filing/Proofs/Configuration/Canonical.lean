import Filing.Fingerprint
import Filing.Proofs.Index
import Filing.Proofs.Json.Text
import Filing.Snapshot

/-!
# What the canonical text of a configuration determines

The canonical text determines a configuration up to the order of its lists, to when it was last modified,
and to which of the doubles that are not finite stand where: all of them are written `null`.
`Configuration.canonical` is what is left, and two configurations have the same canonical bytes exactly
when it is the same for both.
-/

namespace Filing

/-- The double, where all that are not finite count as one. -/
def Double.blurred (x : Double) : Double := if x.isFinite then x else .nan

theorem Double.blurred_eq_self {x : Double} (h : x.isFinite) : x.blurred = x := if_pos h

theorem Double.nan_not_finite : ¬ Double.nan.isFinite := by decide

theorem Double.eq_of_blurred {x y : Double} (hx : x.isFinite) (h : y.blurred = x) : y = x := by
  by_cases hy : y.isFinite
  · exact (blurred_eq_self hy).symm.trans h
  · rw [blurred, if_neg hy] at h
    rw [← h] at hx
    exact absurd hx nan_not_finite

theorem Double.written_eq_iff {x y : Double} :
    (Json.double x).written = (Json.double y).written ↔ x.blurred = y.blurred := by
  have hnan (z : Double) (hz : z.isFinite) : z ≠ .nan := fun he => nan_not_finite (he ▸ hz)
  by_cases hx : x.isFinite <;> by_cases hy : y.isFinite <;>
    simp [Json.written, blurred, hx, hy, hnan, Ne.symm]

def Test.blurred : Test → Test
  | .number operator value => .number operator value.blurred
  | t => t

def Leaf.blurred (l : Leaf) : Leaf := { l with test := l.test.blurred }

@[simp] theorem TextMode.name_inj {m n : TextMode} : m.name = n.name ↔ m = n := by
  cases m <;> cases n <;> decide

@[simp] theorem DateOperator.name_inj {m n : DateOperator} : m.name = n.name ↔ m = n := by
  cases m <;> cases n <;> decide

@[simp] theorem NumberOperator.name_inj {m n : NumberOperator} : m.name = n.name ↔ m = n := by
  cases m <;> cases n <;> decide

theorem Test.written_eq_iff {t u : Test} :
    (t.kind = u.kind ∧ Json.writtenMembers t.members = Json.writtenMembers u.members) ↔
      t.blurred = u.blurred := by
  cases t <;> cases u <;>
    simp [kind, blurred, members, Json.writtenMembers, Double.written_eq_iff]

theorem Leaf.written_eq_iff {l m : Leaf} :
    (Condition.leaf l).toJson.written = (Condition.leaf m).toJson.written ↔ l.blurred = m.blurred := by
  have htest := Test.written_eq_iff (t := l.test) (u := m.test)
  simp only [Condition.toJson, Json.written_object, Json.writtenMembers, Json.written_string,
    Json.object.injEq, List.cons.injEq, Prod.mk.injEq, Json.string.injEq, true_and]
  constructor
  · rintro ⟨hkind, hfield, hmembers⟩
    have ht := htest.mp ⟨hkind, hmembers⟩
    simp only [blurred, hfield, ht]
  · intro h
    have ⟨hkind, hmembers⟩ := htest.mpr (congrArg Leaf.test h)
    exact ⟨hkind, (Leaf.mk.inj h).1, hmembers⟩

namespace Condition

mutual

def blurred : Condition → Condition
  | .leaf l => .leaf l.blurred
  | .and cs => .and (blurredAll cs)
  | .or cs => .or (blurredAll cs)
  | .not c => .not (blurred c)
  | .reference id => .reference id

def blurredAll : List Condition → List Condition
  | [] => []
  | c :: cs => blurred c :: blurredAll cs

end

theorem kind_eq_of_written {c d : Condition} (h : c.toJson.written = d.toJson.written) :
    c.kind = d.kind := by
  have hkind (e : Condition) : (e.toJson.written.member "type") = .string e.kind := by
    cases e <;> simp [toJson, Json.writtenMembers, Json.member, kind]
  exact Json.string.inj (by rw [← hkind c, h, hkind])

theorem ctorIdx_eq_of_kind {c d : Condition} (h : c.kind = d.kind) : c.ctorIdx = d.ctorIdx := by
  have hform (e : Condition) : e.ctorIdx =
      if e.kind = "and" then 1 else if e.kind = "or" then 2 else if e.kind = "not" then 3
      else if e.kind = "reference" then 4 else 0 := by
    cases e with
    | leaf l => rcases l with ⟨_, test⟩; cases test <;> rfl
    | _ => rfl
  rw [hform c, h, hform d]

theorem ctorIdx_eq_of_blurred {c d : Condition} (h : c.blurred = d.blurred) : c.ctorIdx = d.ctorIdx := by
  have hform (e : Condition) : e.blurred.ctorIdx = e.ctorIdx := by
    cases e <;> rfl
  rw [← hform c, h, hform]

mutual

theorem written_eq_iff : ∀ c d : Condition,
    c.toJson.written = d.toJson.written ↔ c.blurred = d.blurred := by
  intro c d
  by_cases hform : c.ctorIdx = d.ctorIdx
  · match c, d, hform with
    | .leaf l, .leaf m, _ => rw [Leaf.written_eq_iff, blurred, blurred, leaf.injEq]
    | .and cs, .and ds, _ =>
      have ih := writtenAll_eq_iff cs ds
      simp [toJson, blurred, Json.writtenMembers, ih]
    | .or cs, .or ds, _ =>
      have ih := writtenAll_eq_iff cs ds
      simp [toJson, blurred, Json.writtenMembers, ih]
    | .not c, .not d, _ =>
      have ih := written_eq_iff c d
      simp [toJson, blurred, Json.writtenMembers, ih]
    | .reference _, .reference _, _ => simp [toJson, blurred, Json.writtenMembers]
  · exact iff_of_false (fun h => hform (ctorIdx_eq_of_kind (kind_eq_of_written h)))
      fun h => hform (ctorIdx_eq_of_blurred h)

theorem writtenAll_eq_iff : ∀ cs ds : List Condition,
    Json.writtenItems (toJsonAll cs) = Json.writtenItems (toJsonAll ds) ↔ blurredAll cs = blurredAll ds := by
  intro cs ds
  match cs, ds with
  | [], [] => simp
  | [], d :: ds => simp [toJsonAll, blurredAll, Json.writtenItems]
  | c :: cs, [] => simp [toJsonAll, blurredAll, Json.writtenItems]
  | c :: cs, d :: ds =>
    simp only [toJsonAll, blurredAll, Json.writtenItems, List.cons.injEq, written_eq_iff c d,
      writtenAll_eq_iff cs ds]

end

end Condition

def Collection.blurred (c : Collection) : Collection := { c with condition := c.condition.blurred }

def SharedCondition.blurred (c : SharedCondition) : SharedCondition :=
  { c with condition := c.condition.blurred }

def Policy.blurred (p : Policy) : Policy := { p with details := p.details.written }

def PolicyType.blurred (t : PolicyType) : PolicyType :=
  { t with definition := t.definition.map Json.written }

theorem Json.ints_inj {xs ys : List Int} : (ints xs).written = (ints ys).written ↔ xs = ys := by
  simp [ints, writtenItems_eq_map, List.map_map, Function.comp_def, List.map_inj_right]

theorem Json.strings_inj {xs ys : List String} : (strings xs).written = (strings ys).written ↔ xs = ys := by
  simp [strings, writtenItems_eq_map, List.map_map, Function.comp_def, List.map_inj_right]

theorem Index.items_inj {α κ : Type} [LT κ] {key : α → κ} {s t : Index key} :
    s.items = t.items ↔ s = t :=
  ⟨Index.ext, congrArg Index.items⟩

theorem Entry.written_eq_iff {e f : Entry} : e.toJson.written = f.toJson.written ↔ e = f := by
  rcases e with ⟨_, _, _, _ | _⟩ <;> rcases f with ⟨_, _, _, _ | _⟩ <;>
    simp [toJson, Json.optionalMember, Json.writtenMembers, Json.ints_inj, Index.items_inj]

theorem Collection.written_eq_iff {c d : Collection} :
    c.toJson.written = d.toJson.written ↔ c.blurred = d.blurred := by
  rcases c with ⟨_, _, _ | _, _, _⟩ <;> rcases d with ⟨_, _, _ | _, _, _⟩ <;>
    simp [toJson, Json.optionalMember, Json.writtenMembers, Json.ints_inj, Index.items_inj, blurred,
      Condition.written_eq_iff]

theorem SharedCondition.written_eq_iff {c d : SharedCondition} :
    c.toJson.written = d.toJson.written ↔ c.blurred = d.blurred := by
  rcases c with ⟨_, _, _⟩
  rcases d with ⟨_, _, _⟩
  simp [toJson, Json.writtenMembers, blurred, Condition.written_eq_iff]

theorem FieldLabel.written_eq_iff {l m : FieldLabel} : l.toJson.written = m.toJson.written ↔ l = m := by
  rcases l with ⟨_, _⟩
  rcases m with ⟨_, _⟩
  simp [toJson, Json.writtenMembers, Json.strings_inj]

theorem Lexicon.written_eq_iff {l m : Lexicon} : l.toJson.written = m.toJson.written ↔ l = m := by
  rcases l with ⟨_, _, _⟩
  rcases m with ⟨_, _, _⟩
  simp [toJson, Json.writtenMembers, Json.strings_inj]

theorem Policy.written_eq_iff {p q : Policy} :
    p.toJson.written = q.toJson.written ↔ p.blurred = q.blurred := by
  rcases p with ⟨_, _, _ | _, _, _, _⟩ <;> rcases q with ⟨_, _, _ | _, _, _, _⟩ <;>
    simp [toJson, Json.optionalMember, Json.writtenMembers, blurred]

theorem PolicyType.written_eq_iff {t u : PolicyType} :
    t.toJson.written = u.toJson.written ↔ t.blurred = u.blurred := by
  rcases t with ⟨_, _, _, _ | _, _ | _, _⟩ <;> rcases u with ⟨_, _, _, _ | _, _ | _, _⟩ <;>
    simp [toJson, Json.optionalMember, Json.writtenMembers, blurred]

theorem map_eq_map_iff {α β γ : Type} {f : α → β} {g : α → γ} (h : ∀ x y, f x = f y ↔ g x = g y) :
    ∀ {xs ys : List α}, xs.map f = ys.map f ↔ xs.map g = ys.map g := by
  intro xs
  induction xs with
  | nil => intro ys; cases ys <;> simp
  | cons x xs ih =>
    intro ys
    cases ys with
    | nil => simp
    | cons y ys => simp only [List.map_cons, List.cons.injEq, h x y, ih]

theorem Json.array_map_inj {α γ : Type} {f : α → Json} {g : α → γ}
    (h : ∀ x y, (f x).written = (f y).written ↔ g x = g y) {xs ys : List α} :
    (array (xs.map f)).written = (array (ys.map f)).written ↔ xs.map g = ys.map g := by
  simp only [written_array, writtenItems_eq_map, List.map_map, array.injEq]
  exact map_eq_map_iff h

theorem Json.array_inj {α : Type} {f : α → Json} (h : ∀ x y, (f x).written = (f y).written ↔ x = y)
    {xs ys : List α} : (array (xs.map f)).written = (array (ys.map f)).written ↔ xs = ys := by
  rw [array_map_inj (g := fun x : α => x) h, List.map_id', List.map_id']

theorem Sequence.written_eq_iff {q r : Sequence} :
    q.canonicalJson.written = r.canonicalJson.written ↔ Snapshot.arrange q = Snapshot.arrange r := by
  have hentries (es fs : List Entry) : (Json.array (es.map Entry.toJson)).written =
      (Json.array (fs.map Entry.toJson)).written ↔ es = fs :=
    Json.array_inj fun _ _ => Entry.written_eq_iff
  simp only [Json.written_array, Json.array.injEq] at hentries
  rcases q with ⟨_, _, _ | _, _⟩ <;> rcases r with ⟨_, _, _ | _, _⟩ <;>
    simp [canonicalJson, Json.writtenMembers, Snapshot.arrange, hentries]

namespace Configuration

/-- What the canonical text of a configuration determines. -/
def canonical (c : Configuration) : Configuration where
  sequences := (sortOn Sequence.id c.sequences).map Snapshot.arrange
  collections := (sortOn Collection.id c.collections).map Collection.blurred
  conditions := (sortOn SharedCondition.id c.conditions).map SharedCondition.blurred
  fieldLabels := sortOn FieldLabel.name c.fieldLabels
  lexicons := sortOn Lexicon.id c.lexicons
  policies := (sortOn Policy.id c.policies).map Policy.blurred
  policyTypes := (sortOn PolicyType.id c.policyTypes).map PolicyType.blurred

theorem canonicalJson_eq_iff {c d : Configuration} :
    c.canonicalJson.written = d.canonicalJson.written ↔ c.canonical = d.canonical := by
  simp only [canonicalJson, canonical, Json.written_object, Json.writtenMembers, Json.object.injEq,
    List.cons.injEq, Prod.mk.injEq, true_and, and_true, mk.injEq,
    Json.array_map_inj fun _ _ => Sequence.written_eq_iff,
    Json.array_map_inj fun _ _ => Collection.written_eq_iff,
    Json.array_map_inj fun _ _ => SharedCondition.written_eq_iff,
    Json.array_inj fun _ _ => FieldLabel.written_eq_iff,
    Json.array_inj fun _ _ => Lexicon.written_eq_iff,
    Json.array_map_inj fun _ _ => Policy.written_eq_iff,
    Json.array_map_inj fun _ _ => PolicyType.written_eq_iff]

theorem toList_loop (bytes : ByteArray) : ∀ (n i : Nat) (r : List UInt8), bytes.size - i = n →
    ByteArray.toList.loop bytes i r = r.reverse ++ bytes.data.toList.drop i := by
  intro n
  induction n with
  | zero =>
    intro i r hn
    rw [ByteArray.toList.loop, if_neg (by omega), List.drop_eq_nil_of_le, List.append_nil]
    rw [Array.length_toList]
    exact Nat.le_of_sub_eq_zero hn
  | succ n ih =>
    intro i r hn
    have hsize : i < bytes.size := by omega
    have hi : i < bytes.data.size := hsize
    have hget : bytes.get! i = bytes.data.toList[i] := by
      rw [Array.getElem_toList]
      exact getElem!_pos bytes.data i hi
    rw [ByteArray.toList.loop, if_pos hsize, ih (i + 1) _ (by omega), List.reverse_cons,
      List.append_assoc, List.drop_eq_getElem_cons (i := i) (by simpa using hi), hget]
    rfl

theorem utf8_inj {s t : String} : s.toUTF8.toList = t.toUTF8.toList ↔ s = t := by
  have hlist (bytes : ByteArray) : bytes.toList = bytes.data.toList := by
    rw [ByteArray.toList, toList_loop bytes _ 0 [] rfl]
    rfl
  rw [hlist, hlist, Array.toList_inj, ← String.toByteArray_inj]
  exact ⟨ByteArray.ext, congrArg ByteArray.data⟩

/-- Two configurations have the same canonical bytes exactly when they are the same up to the order of
lists and doubles that are not finite. -/
theorem canonicalBytes_eq_iff {c d : Configuration} :
    c.canonicalBytes = d.canonicalBytes ↔ c.canonical = d.canonical := by
  rw [canonicalBytes, canonicalBytes, utf8_inj, Json.text_eq_iff, canonicalJson_eq_iff]

end Configuration

end Filing
