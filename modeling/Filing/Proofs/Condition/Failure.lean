import Filing.Proofs.Condition.Expansion
import Filing.Proofs.Condition.Question

/-!
# Why an evaluation fails

An evaluation fails for a leaf that fails, for a reference that names nothing, or for a chain of references
that is too long. The leaf or the reference stands in the condition or in a shared condition that references
lead to from it. In a closed snapshot, what they lead to names nothing that is not there.
-/

namespace Filing

namespace Test

inductive Fails (s : Snapshot) (field : String) : Test → ConditionFault → Prop where
  | invalidPattern {p : String} {fault : PatternFault} (h : Pattern.compile p = .error fault) :
      Fails s field (.regex p) (.invalidPattern p fault)
  | invalidDate {operator : DateOperator} {value : String} (h : Instant.ofDateValue? value = none) :
      Fails s field (.date operator value) (.invalidDate value field)
  | lexiconNotFound {id : Int} {wholeValue : Bool} (h : s.lexicon? id = none) :
      Fails s field (.lexicon id wholeValue) (.lexiconNotFound id)
  | needsEvaluator {text : String} : Fails s field (.expression text) (.needsEvaluator text)

variable {s : Snapshot} {field : String} {t : Test} {fault : ConditionFault}

theorem question_eq_error_iff : t.question s field = .error fault ↔ t.Fails s field fault := by
  constructor
  · intro h
    cases t with
    | text value mode caseSensitive => cases caseSensitive <;> cases h
    | regex p =>
      simp only [question] at h
      split at h
      · cases h
      · rename_i hp
        cases h
        exact .invalidPattern hp
    | date operator value =>
      simp only [question] at h
      split at h
      · cases h
      · rename_i hv
        cases h
        exact .invalidDate hv
    | number | present => cases h
    | lexicon id wholeValue =>
      simp only [question] at h
      split at h
      · cases h
      · rename_i hid
        cases h
        exact .lexiconNotFound hid
    | expression text =>
      cases h
      exact .needsEvaluator
  · intro h
    cases h with
    | invalidPattern h | invalidDate h | lexiconNotFound h => simp only [question, h]
    | needsEvaluator => rfl

end Test

theorem Leaf.evaluate_eq_error_iff {s : Snapshot} {d : Document} {l : Leaf} {e : Error} :
    l.evaluate s d = .error e ↔ ∃ fault, e = .conditionEvaluation fault ∧ l.test.Fails s l.field fault := by
  simp only [← Test.question_eq_error_iff, evaluate_eq]
  cases l.test.question s l.field with
  | ok question => simp
  | error fault => simp [eq_comm]

def ConditionFault.Missing : ConditionFault → Prop
  | .conditionNotFound _ | .lexiconNotFound _ => True
  | .inCollection _ fault => fault.Missing
  | _ => False

namespace Snapshot
variable {s : Snapshot} {c d : Condition}

theorem Covers.part (hc : s.Covers c) (h : d.PartOf c) : s.Covers d := by
  constructor
  · intro id hid
    exact hc.conditions id
      (Condition.mem_referencedConditions.mpr ((Condition.mem_referencedConditions.mp hid).trans h))
  · intro id hid
    obtain ⟨field, wholeValue, hleaf⟩ := Condition.mem_referencedLexicons.mp hid
    exact hc.lexicons id (Condition.mem_referencedLexicons.mpr ⟨field, wholeValue, hleaf.trans h⟩)

theorem Closed.covers_shared (hs : s.Closed) {id : Int} (h : s.condition? id = some c) : s.Covers c := by
  obtain ⟨shared, hshared, rfl⟩ := Option.map_eq_some_iff.mp h
  exact hs.sharedConditions shared (Index.get?_eq_some_iff.mp hshared).1

theorem Closed.covers_collection (hs : s.Closed) {id : Int} {k : Collection}
    (h : s.collection? id = some k) : s.Covers k.condition :=
  hs.collectionConditions k (Index.get?_eq_some_iff.mp h).1

theorem Closed.covers_reached (hs : s.Closed) (hc : s.Covers c) (h : s.Reaches c d) : s.Covers d := by
  induction h with
  | part h => exact hc.part h
  | refer _ ht _ ih => exact ih (hs.covers_shared ht)

theorem Covers.exists_condition {id : Int} (h : s.Covers (.reference id)) :
    ∃ target, s.condition? id = some target := by
  have hid := h.conditions id (Condition.mem_referencedConditions.mpr (.self _))
  obtain ⟨shared, hshared⟩ := Option.isSome_iff_exists.mp hid
  exact ⟨shared.condition, Option.map_eq_some_iff.mpr ⟨shared, hshared, rfl⟩⟩

theorem Covers.exists_lexicon {field : String} {id : Int} {wholeValue : Bool}
    (h : s.Covers (.leaf ⟨field, .lexicon id wholeValue⟩)) : ∃ lexicon, s.lexicon? id = some lexicon :=
  Option.isSome_iff_exists.mp
    (h.lexicons id (Condition.mem_referencedLexicons.mpr ⟨field, wholeValue, .self _⟩))

end Snapshot

theorem Verdict.negate_eq_error_iff {v : Verdict} {e : Error} : v.negate = .error e ↔ v = .error e := by
  cases v with
  | ok b => simp [negate]
  | error e' => rfl

namespace Condition

/-- A leaf of the condition fails, or what one of its references stands for. -/
inductive FailsWith (leaf : Leaf → Verdict) (refer : Int → Verdict) (c : Condition) (e : Error) : Prop where
  | leaf {l : Leaf} (h : (Condition.leaf l).PartOf c) (he : leaf l = .error e)
  | reference {id : Int} (h : (Condition.reference id).PartOf c) (he : refer id = .error e)

section
variable {leaf : Leaf → Verdict} {refer : Int → Verdict} {e : Error}

theorem error_kept {p : Prop} : Judgement.Kept fun x _ => x.verdict = .error e → p where
  verdict _ he := nomatch he
  goOn b x _ y _ hx hy he := by
    by_cases hb : x.verdict = .ok b
    · rw [Judgement.goOn_of_eq hb] at he
      exact hy he
    · rw [Judgement.goOn_of_ne hb] at he
      exact hx he

theorem failsWith_of_evaluateWith {c : Condition} (he : c.evaluateWith leaf refer = .error e) :
    FailsWith leaf refer c e := by
  have halike : Alike (fun x _ => x.verdict = .error e → FailsWith leaf refer c e) leaf leaf
      (fun id => ⟨refer id, []⟩) (fun id => ⟨refer id, []⟩) c := by
    refine ⟨fun l hl he => .leaf hl he, fun id hid he => .reference hid he, fun d _ x _ hx he => ?_⟩
    exact hx (Verdict.negate_eq_error_iff.mp he)
  exact judgementWith_related error_kept c halike he

end

inductive Failure (leaf : Leaf → Verdict) (s : Snapshot) (limit left : Nat) (c : Condition) :
    Error → Prop where
  | leaf {l : Leaf} {e : Error} (h : s.Reaches c (.leaf l)) (he : leaf l = .error e) :
      Failure leaf s limit left c e
  | notFound {id : Int} (h : s.Reaches c (.reference id)) (hs : s.condition? id = none) :
      Failure leaf s limit left c (.conditionEvaluation (.conditionNotFound id))
  | tooDeep {id : Int} (h : s.Reaches c (.reference id)) (hk : ¬ c.ChainsWithin s left) :
      Failure leaf s limit left c (.conditionEvaluation (.tooDeep id limit))

variable {leaf : Leaf → Verdict} {s : Snapshot} {limit left : Nat} {c : Condition} {e : Error}

theorem failure_of_evaluateAt (he : c.evaluateAt leaf s limit left = .error e) :
    Failure leaf s limit left c e := by
  induction left generalizing c with
  | zero =>
    cases failsWith_of_evaluateWith he with
    | leaf h he => exact .leaf (.part h) he
    | reference h he =>
      obtain rfl := Except.error.inj he
      refine .tooDeep (.part h) fun hk => ?_
      have hid := mem_referencedConditions.mpr h
      rw [chainsWithin_zero_iff.mp hk] at hid
      cases hid
  | succ left ih =>
    cases failsWith_of_evaluateWith he with
    | leaf h he => exact .leaf (.part h) he
    | @reference id h he =>
      cases hs : s.condition? id with
      | none =>
        simp only [hs] at he
        obtain rfl := Except.error.inj he
        exact .notFound (.part h) hs
      | some target =>
        simp only [hs] at he
        cases ih he with
        | leaf h' he' => exact .leaf (.refer h hs h') he'
        | notFound h' hs' => exact .notFound (.refer h hs h') hs'
        | tooDeep h' hk' =>
          refine .tooDeep (.refer h hs h') fun hk => hk' ?_
          exact chainsWithin_succ_iff.mp hk id (mem_referencedConditions.mpr h) target hs

/-- Where a condition names nothing that is missing, neither does what it fails for: a leaf is not fit to be asked,
or a chain of references is too long. -/
theorem failure_of_covered {d : Document} (hs : s.Closed) (hc : s.Covers c)
    (he : c.evaluateAt (Leaf.evaluate s d) s limit left = .error e) :
    ∃ fault, e = .conditionEvaluation fault ∧ ¬ fault.Missing ∧
      ((∃ l, s.Reaches c (.leaf l) ∧ l.test.Fails s l.field fault) ∨ ¬ c.ChainsWithin s left) := by
  cases failure_of_evaluateAt he with
  | @leaf l _ h hl =>
    obtain ⟨fault, rfl, hfails⟩ := Leaf.evaluate_eq_error_iff.mp hl
    refine ⟨fault, rfl, fun hmissing => ?_, .inl ⟨l, h, hfails⟩⟩
    obtain ⟨field, test⟩ := l
    cases hfails with
    | invalidPattern | invalidDate | needsEvaluator => exact hmissing
    | lexiconNotFound hid =>
      obtain ⟨lexicon, hlexicon⟩ := (hs.covers_reached hc h).exists_lexicon
      rw [hid] at hlexicon
      cases hlexicon
  | notFound h hid =>
    obtain ⟨target, htarget⟩ := (hs.covers_reached hc h).exists_condition
    rw [hid] at htarget
    cases htarget
  | tooDeep _ hk => exact ⟨_, rfl, id, .inr hk⟩

end Condition

end Filing
