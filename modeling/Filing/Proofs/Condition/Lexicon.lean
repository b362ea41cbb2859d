import Filing.Proofs.Condition.CaseSensitivity
import Filing.Proofs.Condition.Comparison

/-!
# Lexicons are tests for their terms

A leaf for a lexicon looks for all terms at once, in lower case and each of them once. That comes to the same as
asking for one term after the other by tests for texts that ignore case, as all of a value or as a part of it. Which
search is used makes no difference, as long as it finds something exactly where one of the parts occurs.
-/

namespace Filing

def Search.Exact (search : Search) : Prop :=
  ∀ parts text, search parts text = true ↔ ∃ part ∈ parts, part <:+: text

theorem anyOccursIn_exact : Search.Exact anyOccursIn := by
  intro parts text
  induction text with
  | nil => simp only [anyOccursIn, List.any_eq_true, List.isEmpty_iff, List.infix_nil]
  | cons c rest ih =>
    rw [anyOccursIn, Bool.or_eq_true, ih, List.any_eq_true]
    simp only [List.isPrefixOf_iff_prefix, List.infix_cons_iff, and_or_left, exists_or]

def TextMode.ofTerm (wholeValue : Bool) : TextMode := if wholeValue then .equals else .contains

namespace Lexicon
variable {lexicon : Lexicon} {search : Search} {wholeValue : Bool} {value : String}

theorem mem_foldedTerms {folded : String} : folded ∈ lexicon.foldedTerms.items ↔
    ∃ term ∈ lexicon.terms, String.ofList (Text.lower term.toList) = folded := by
  rw [foldedTerms, Index.mem_ofList, List.mem_map]

theorem hitsBy_iff_folded (hsearch : search.Exact) : lexicon.hitsBy search wholeValue value = true ↔
    ∃ folded ∈ lexicon.foldedTerms.items,
      (TextMode.ofTerm wholeValue).compare (Text.lower value.toList) folded.toList = true := by
  rw [hitsBy, Terms.hitsBy]
  cases wholeValue with
  | true =>
    rw [if_pos rfl, Index.contains_iff_mem]
    simp only [TextMode.ofTerm, if_true, TextMode.compare, beq_iff_eq]
    constructor
    · exact fun h => ⟨_, h, String.toList_ofList.symm⟩
    · rintro ⟨folded, hfolded, he⟩
      rwa [he, String.ofList_toList]
  | false =>
    rw [if_neg Bool.false_ne_true, hsearch]
    simp only [List.mem_map, exists_exists_and_eq_and, TextMode.ofTerm, Bool.false_eq_true, if_false,
      TextMode.compare, occursIn_iff]

/-- A value is hit where one of the terms stands in it, case ignored. -/
theorem hitsBy_iff (hsearch : search.Exact) : lexicon.hitsBy search wholeValue value = true ↔
    ∃ term ∈ lexicon.terms,
      (TextMode.ofTerm wholeValue).compare (Text.lower value.toList) (Text.lower term.toList) = true := by
  rw [hitsBy_iff_folded hsearch]
  constructor
  · rintro ⟨folded, hfolded, hcompare⟩
    obtain ⟨term, hterm, rfl⟩ := mem_foldedTerms.mp hfolded
    rw [String.toList_ofList] at hcompare
    exact ⟨term, hterm, hcompare⟩
  · rintro ⟨term, hterm, hcompare⟩
    refine ⟨_, mem_foldedTerms.mpr ⟨term, hterm, rfl⟩, ?_⟩
    rwa [String.toList_ofList]

theorem hits_iff : lexicon.hits wholeValue value = true ↔ ∃ term ∈ lexicon.terms,
    (TextMode.ofTerm wholeValue).compare (Text.lower value.toList) (Text.lower term.toList) = true :=
  hitsBy_iff anyOccursIn_exact

theorem hitsBy_eq_hits (hsearch : search.Exact) : lexicon.hitsBy search = lexicon.hits := by
  funext wholeValue value
  rw [Bool.eq_iff_iff, hitsBy_iff hsearch, hits_iff]

theorem hits_of_hits_whole (h : lexicon.hits true value = true) : lexicon.hits false value = true := by
  obtain ⟨term, hterm, hcompare⟩ := hits_iff.mp h
  refine hits_iff.mpr ⟨term, hterm, ?_⟩
  exact occursIn_iff.mpr (TextMode.infix_of_compare hcompare)

/-- The lexicon written out: for each of its terms a test for a text that ignores case. -/
def spelled (lexicon : Lexicon) (field : String) (wholeValue : Bool) : Condition :=
  .or (lexicon.terms.map fun term => .leaf ⟨field, .text term (.ofTerm wholeValue) false⟩)

end Lexicon

namespace Condition
variable {leaf : Leaf → Verdict} {refer : Int → Verdict}

theorem evaluateAny_of_leaves {α : Type} {f : α → Leaf} {p : α → Bool} {xs : List α}
    (h : ∀ x ∈ xs, leaf (f x) = .ok (p x)) :
    evaluateAny leaf refer (xs.map fun x => .leaf (f x)) = .ok (xs.any p) := by
  induction xs with
  | nil => rfl
  | cons x xs ih =>
    rw [List.map_cons, evaluateAny, evaluateWith, h x List.mem_cons_self,
      ih fun y hy => h y (List.mem_cons_of_mem x hy), List.any_cons]
    cases p x <;> rfl

end Condition

namespace Leaf
variable {s : Snapshot} {d : Document} {id : Int} {lexicon : Lexicon} {field : String} {wholeValue : Bool}

theorem evaluate_lexicon (h : s.lexicon? id = some lexicon) :
    Leaf.evaluate s d ⟨field, .lexicon id wholeValue⟩ =
      .ok ((s.fieldValues d field).any (lexicon.hits wholeValue)) := by
  simp only [evaluate_eq, Test.question, h]

/-- A leaf for a lexicon has the verdict of the disjunction of the tests for its terms, whichever exact search
finds them. What is a term as a whole also has it as a part. -/
theorem evaluate_lexicon_spelled (h : s.lexicon? id = some lexicon) (field : String) (d : Document) :
    (∀ search : Search, search.Exact → lexicon.hitsBy search = lexicon.hits) ∧
      (∀ wholeValue limit, ∃ verdict : Bool,
        (Condition.leaf ⟨field, .lexicon id wholeValue⟩).evaluate (Leaf.evaluate s d) s limit = .ok verdict ∧
          (lexicon.spelled field wholeValue).evaluate (Leaf.evaluate s d) s limit = .ok verdict) ∧
      (Leaf.evaluate s d ⟨field, .lexicon id true⟩ = .ok true →
        Leaf.evaluate s d ⟨field, .lexicon id false⟩ = .ok true) := by
  refine ⟨fun _ => Lexicon.hitsBy_eq_hits, fun wholeValue limit => ?_, fun hwhole => ?_⟩
  · refine ⟨(s.fieldValues d field).any (lexicon.hits wholeValue), ?_, ?_⟩
    · rw [Condition.evaluate, Condition.evaluateAt_eq]
      exact evaluate_lexicon h
    · rw [Condition.evaluate, Condition.evaluateAt_eq, Lexicon.spelled, Condition.evaluateWith,
        Condition.evaluateAny_of_leaves fun _ _ => rfl]
      rw [Except.ok.injEq, Bool.eq_iff_iff]
      simp only [List.any_eq_true, Lexicon.hits_iff]
      constructor
      · rintro ⟨term, hterm, value, hvalue, hcompare⟩
        exact ⟨value, hvalue, term, hterm, hcompare⟩
      · rintro ⟨value, hvalue, term, hterm, hcompare⟩
        exact ⟨term, hterm, value, hvalue, hcompare⟩
  · rw [evaluate_lexicon h, Except.ok.injEq, List.any_eq_true] at hwhole ⊢
    obtain ⟨value, hvalue, hhit⟩ := hwhole
    exact ⟨value, hvalue, Lexicon.hits_of_hits_whole hhit⟩

def bills : Lexicon := ⟨1, "bills", ["Invoice", "INVOICE", "Bill", ""]⟩

def billRules : Configuration where
  fieldLabels := [⟨"text", ["title", "body"]⟩]
  lexicons := [bills]

theorem evaluate_bills_spelled :
    ∃ s, Snapshot.build billRules none = .ok s ∧ s.lexicon? 1 = some bills ∧
      ∀ d, (∀ search : Search, search.Exact → bills.hitsBy search = bills.hits) ∧
        (∀ wholeValue limit, ∃ verdict : Bool,
          (Condition.leaf ⟨"text", .lexicon 1 wholeValue⟩).evaluate (Leaf.evaluate s d) s limit = .ok verdict ∧
            (bills.spelled "text" wholeValue).evaluate (Leaf.evaluate s d) s limit = .ok verdict) ∧
        (Leaf.evaluate s d ⟨"text", .lexicon 1 true⟩ = .ok true →
          Leaf.evaluate s d ⟨"text", .lexicon 1 false⟩ = .ok true) := by
  obtain ⟨s, hs, hbills⟩ : ∃ s, Snapshot.build billRules none = .ok s ∧ s.lexicon? 1 = some bills :=
    ⟨_, rfl, rfl⟩
  exact ⟨s, hs, hbills, evaluate_lexicon_spelled hbills "text"⟩

end Leaf

end Filing
