import Filing.Proofs.Configuration.Canonical

/-!
# Finite numbers leave no doubt

The canonical bytes of a configuration determine all of its content, but for the order of its lists, as long
as the numbers of its conditions are finite. `Configuration.arranged` is the content in its canonical order:
two configurations with finite numbers have the same bytes exactly when they are the same once arranged.
-/

namespace Filing

def Test.number? : Test → Option Double
  | .number _ value => some value
  | _ => none

theorem Test.eq_of_blurred {t u : Test} (hfin : ∀ x, u.number? = some x → x.isFinite)
    (h : t.blurred = u.blurred) : t = u := by
  cases u with
  | number operator value =>
    have hvalue := hfin value rfl
    cases t with
    | number operator' value' =>
      obtain ⟨rfl, hv⟩ := Test.number.inj h
      rw [Double.blurred_eq_self hvalue] at hv
      rw [Double.eq_of_blurred hvalue hv]
    | _ => cases h
  | _ =>
    cases t with
    | number => cases h
    | _ => exact h

namespace Condition

def number? : Condition → Option Double
  | .leaf l => l.test.number?
  | _ => none

def numbers (c : Condition) : List Double := c.walk.filterMap number?

mutual

theorem eq_of_blurred : ∀ c d : Condition, (∀ x ∈ d.numbers, x.isFinite) → c.blurred = d.blurred → c = d := by
  intro c d hfin h
  match c, d, ctorIdx_eq_of_blurred h with
  | .leaf ⟨field, test⟩, .leaf ⟨field', test'⟩, _ =>
    obtain ⟨rfl, htest⟩ := Leaf.mk.inj (leaf.inj h)
    have ht := Test.eq_of_blurred (fun x hx => hfin x (by simp [numbers, walk, number?, hx])) htest
    exact congrArg (fun t => leaf ⟨field, t⟩) ht
  | .and cs, .and ds, _ =>
    have hall := eq_of_blurredAll cs ds (fun x hx => hfin x (by simpa [numbers, walk, number?] using hx))
    rw [hall (and.inj h)]
  | .or cs, .or ds, _ =>
    have hall := eq_of_blurredAll cs ds (fun x hx => hfin x (by simpa [numbers, walk, number?] using hx))
    rw [hall (or.inj h)]
  | .not c, .not d, _ =>
    have hpart := eq_of_blurred c d (fun x hx => hfin x (by simpa [numbers, walk, number?] using hx))
    rw [hpart (not.inj h)]
  | .reference _, .reference _, _ => exact h

theorem eq_of_blurredAll : ∀ cs ds : List Condition, (∀ x ∈ (walkAll ds).filterMap number?, x.isFinite) →
    blurredAll cs = blurredAll ds → cs = ds := by
  intro cs ds hfin h
  match cs, ds with
  | [], [] => rfl
  | [], d :: ds => cases h
  | c :: cs, [] => cases h
  | c :: cs, d :: ds =>
    rw [walkAll, List.filterMap_append] at hfin
    obtain ⟨hc, hcs⟩ := List.cons.inj h
    rw [eq_of_blurred c d (fun x hx => hfin x (List.mem_append_left _ hx)) hc,
      eq_of_blurredAll cs ds (fun x hx => hfin x (List.mem_append_right _ hx)) hcs]

end

end Condition

theorem eq_of_map_eq {α β : Type} {f : α → β} :
    ∀ {xs ys : List α}, (∀ x, ∀ y ∈ ys, f x = f y → x = y) → xs.map f = ys.map f → xs = ys := by
  intro xs
  induction xs with
  | nil =>
    intro ys _ h
    exact (List.map_eq_nil_iff.mp h.symm).symm
  | cons x xs ih =>
    intro ys hf h
    cases ys with
    | nil => cases h
    | cons y ys =>
      obtain ⟨hx, hxs⟩ := List.cons.inj h
      rw [hf x y List.mem_cons_self hx, ih (fun x y hy => hf x y (List.mem_cons_of_mem _ hy)) hxs]

namespace Configuration

def numbers (c : Configuration) : List Double :=
  c.collections.flatMap (fun k => k.condition.numbers) ++ c.conditions.flatMap fun k => k.condition.numbers

/-- The free values of a configuration, in policies and in their types, are such as are written: they hold
no double that is not finite. -/
structure Plain (c : Configuration) : Prop where
  details : ∀ p ∈ c.policies, p.details.written = p.details
  definitions : ∀ t ∈ c.policyTypes, t.definition.map Json.written = t.definition

variable {c d : Configuration}

theorem collections_eq_of_canonical (hfin : ∀ x ∈ d.numbers, x.isFinite) (h : c.canonical = d.canonical) :
    sortOn Collection.id c.collections = sortOn Collection.id d.collections := by
  refine eq_of_map_eq (fun x y hy hxy => ?_) (congrArg Configuration.collections h)
  have hcondition := Condition.eq_of_blurred x.condition y.condition
    (fun v hv => hfin v (List.mem_append_left _ (List.mem_flatMap.mpr ⟨y, mem_sortOn.mp hy, hv⟩)))
    (congrArg Collection.condition hxy)
  cases x
  cases y
  cases hcondition
  cases hxy
  rfl

theorem conditions_eq_of_canonical (hfin : ∀ x ∈ d.numbers, x.isFinite) (h : c.canonical = d.canonical) :
    sortOn SharedCondition.id c.conditions = sortOn SharedCondition.id d.conditions := by
  refine eq_of_map_eq (fun x y hy hxy => ?_) (congrArg Configuration.conditions h)
  have hcondition := Condition.eq_of_blurred x.condition y.condition
    (fun v hv => hfin v (List.mem_append_right _ (List.mem_flatMap.mpr ⟨y, mem_sortOn.mp hy, hv⟩)))
    (congrArg SharedCondition.condition hxy)
  cases x
  cases y
  cases hcondition
  cases hxy
  rfl

theorem policies_canonical (hc : c.Plain) : c.canonical.policies = sortOn Policy.id c.policies := by
  refine (List.map_congr_left fun p hp => ?_).trans (List.map_id _)
  rw [Policy.blurred, hc.details p (mem_sortOn.mp hp)]
  rfl

theorem policyTypes_canonical (hc : c.Plain) :
    c.canonical.policyTypes = sortOn PolicyType.id c.policyTypes := by
  refine (List.map_congr_left fun t ht => ?_).trans (List.map_id _)
  rw [PolicyType.blurred, hc.definitions t (mem_sortOn.mp ht)]
  rfl

def arranged (c : Configuration) : Configuration where
  sequences := (sortOn Sequence.id c.sequences).map Snapshot.arrange
  collections := sortOn Collection.id c.collections
  conditions := sortOn SharedCondition.id c.conditions
  fieldLabels := sortOn FieldLabel.name c.fieldLabels
  lexicons := sortOn Lexicon.id c.lexicons
  policies := sortOn Policy.id c.policies
  policyTypes := sortOn PolicyType.id c.policyTypes

theorem canonical_eq_of_arranged (h : c.arranged = d.arranged) : c.canonical = d.canonical :=
  congrArg (fun a : Configuration => { a with
    collections := a.collections.map Collection.blurred
    conditions := a.conditions.map SharedCondition.blurred
    policies := a.policies.map Policy.blurred
    policyTypes := a.policyTypes.map PolicyType.blurred }) h

theorem fingerprint_eq_of_arranged (h : c.arranged = d.arranged) : c.fingerprint = d.fingerprint := by
  rw [fingerprint, canonicalBytes_eq_iff.mpr (canonical_eq_of_arranged h), fingerprint]

theorem arranged_eq_of_canonical (hc : c.Plain) (hd : d.Plain) (hfin : ∀ x ∈ d.numbers, x.isFinite)
    (h : c.canonical = d.canonical) : c.arranged = d.arranged := by
  have hsequences : (sortOn Sequence.id c.sequences).map Snapshot.arrange =
      (sortOn Sequence.id d.sequences).map Snapshot.arrange := congrArg Configuration.sequences h
  have hcollections := collections_eq_of_canonical hfin h
  have hconditions := conditions_eq_of_canonical hfin h
  have hlabels : sortOn FieldLabel.name c.fieldLabels = sortOn FieldLabel.name d.fieldLabels :=
    congrArg Configuration.fieldLabels h
  have hlexicons : sortOn Lexicon.id c.lexicons = sortOn Lexicon.id d.lexicons :=
    congrArg Configuration.lexicons h
  have hpolicies := congrArg Configuration.policies h
  rw [policies_canonical hc, policies_canonical hd] at hpolicies
  have htypes := congrArg Configuration.policyTypes h
  rw [policyTypes_canonical hc, policyTypes_canonical hd] at htypes
  simp only [arranged, hsequences, hcollections, hconditions, hlabels, hlexicons, hpolicies, htypes]

/-- Where all numbers are finite the canonical bytes determine every part of every record: the bytes are
the same exactly when the arranged content is. It is enough that the numbers of one of the two are. -/
theorem canonicalBytes_eq_iff_arranged (hc : c.Plain) (hd : d.Plain) (hfin : ∀ x ∈ d.numbers, x.isFinite) :
    c.canonicalBytes = d.canonicalBytes ↔ c.arranged = d.arranged := by
  rw [canonicalBytes_eq_iff]
  constructor
  · exact arranged_eq_of_canonical hc hd hfin
  · exact canonical_eq_of_arranged

def zeroRules (zero : Double) : Configuration where
  collections := [
    ⟨2, "\"heavy\"", none, .leaf ⟨"weight", .number .greater zero⟩, .ofList [3]⟩,
    ⟨1, "light", some "", .not (.leaf ⟨"weight", .number .greater zero⟩), .empty⟩]
  policies := [⟨3, "mark", none, 4, 0, .object [("at", .array [.null, .double zero])]⟩]
  policyTypes := [⟨4, "Mark", "", none, some .null, "mark"⟩]

/-- Zero and minus zero are equal as numbers, and yet the bytes tell them apart. -/
theorem canonicalBytes_zeroRules_ne :
    (zeroRules .zero).Plain ∧ (zeroRules (.ofMagnitude true 0)).Plain ∧
      (∀ x ∈ (zeroRules (.ofMagnitude true 0)).numbers, x.isFinite) ∧
      Double.zero.eq (.ofMagnitude true 0) = true ∧
      (zeroRules .zero).canonicalBytes ≠ (zeroRules (.ofMagnitude true 0)).canonicalBytes := by
  have hplain (zero : Double) (h : zero.isFinite = true) : (zeroRules zero).Plain := by
    constructor
    · intro p hp
      obtain rfl := List.mem_singleton.mp hp
      simp [Json.writtenItems, Json.writtenMembers, Json.written, h]
    · intro t ht
      obtain rfl := List.mem_singleton.mp ht
      rfl
  have hc := hplain .zero (by decide)
  have hd := hplain (.ofMagnitude true 0) (by decide)
  have hfin : ∀ x ∈ (zeroRules (.ofMagnitude true 0)).numbers, x.isFinite := by decide
  refine ⟨hc, hd, hfin, by decide, fun h => ?_⟩
  have harranged := (canonicalBytes_eq_iff_arranged hc hd hfin).mp h
  exact absurd harranged (by decide)

end Configuration

end Filing
