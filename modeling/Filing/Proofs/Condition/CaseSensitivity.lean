import Filing.Proofs.Condition.Question
import Filing.Proofs.Document
import Filing.Proofs.Text.Lowercase

/-!
# Ignoring case

A test for a text that ignores case compares lower forms. One would expect it to hold wherever the same test with
regard to case holds. That is so for every expected text but those with a capital sigma at an end that the mode
leaves open: what a value has there turns the sigma into its other lower form, and the expected text is no longer
found. `TextMode.settles` says for which expected texts nothing is lost.
-/

namespace Filing

theorem occursIn_iff {part cs : List Char} : occursIn part cs = true ↔ part <:+: cs := by
  induction cs with
  | nil => rw [occursIn, List.isEmpty_iff, List.infix_nil]
  | cons c cs ih => rw [occursIn, Bool.or_eq_true, List.isPrefixOf_iff_prefix, ih, List.infix_cons_iff]

namespace TextMode
variable {mode : TextMode} {before after actual expected : List Char}

def opensAfter : TextMode → Bool
  | .contains | .startsWith => true
  | .equals | .endsWith => false

def opensBefore : TextMode → Bool
  | .contains | .endsWith => true
  | .equals | .startsWith => false

structure Fits (mode : TextMode) (before after : List Char) : Prop where
  before : mode.opensBefore = false → before = []
  after : mode.opensAfter = false → after = []

theorem compare_iff : mode.compare actual expected = true ↔
    ∃ before after, mode.Fits before after ∧ actual = before ++ expected ++ after := by
  cases mode with
  | equals =>
    rw [compare, beq_iff_eq]
    constructor
    · rintro rfl
      exact ⟨[], [], ⟨fun _ => rfl, fun _ => rfl⟩, (List.append_nil _).symm⟩
    · rintro ⟨before, after, hfits, rfl⟩
      rw [hfits.before rfl, hfits.after rfl, List.append_nil, List.nil_append]
  | contains =>
    rw [compare, occursIn_iff]
    constructor
    · rintro ⟨before, after, he⟩
      exact ⟨before, after, ⟨(fun h => nomatch h), fun h => nomatch h⟩, he.symm⟩
    · rintro ⟨before, after, -, rfl⟩
      exact ⟨before, after, rfl⟩
  | startsWith =>
    rw [compare, List.isPrefixOf_iff_prefix]
    constructor
    · rintro ⟨after, rfl⟩
      exact ⟨[], after, ⟨fun _ => rfl, fun h => nomatch h⟩, rfl⟩
    · rintro ⟨before, after, hfits, rfl⟩
      rw [hfits.before rfl]
      exact ⟨after, rfl⟩
  | endsWith =>
    rw [compare, List.isSuffixOf_iff_suffix]
    constructor
    · rintro ⟨before, rfl⟩
      exact ⟨before, [], ⟨(fun h => nomatch h), fun _ => rfl⟩, (List.append_nil _).symm⟩
    · rintro ⟨before, after, hfits, rfl⟩
      rw [hfits.after rfl, List.append_nil]
      exact ⟨before, rfl⟩

theorem infix_of_compare (h : mode.compare actual expected = true) : expected <:+: actual := by
  obtain ⟨before, after, -, rfl⟩ := compare_iff.mp h
  exact ⟨before, after, rfl⟩

end TextMode

/-- Whether what stands around a text turns one of its sigmas into the other lower form. -/
def Text.turns (before expected after : List Char) : Bool :=
  endsInSigma expected && facesCased after || startsWithSigma expected after && facesCased before.reverse

namespace TextMode
variable {mode : TextMode} {before after actual expected : List Char}

theorem Fits.compare_lower (h : mode.Fits before after) (hturns : Text.turns before expected after = false) :
    mode.compare (Text.lower (before ++ expected ++ after)) (Text.lower expected) = true := by
  rw [Text.turns, Bool.or_eq_false_iff] at hturns
  obtain ⟨hend, hstart⟩ := hturns
  have hsame : Text.lowerWithin before.reverse after expected = Text.lower expected := by
    apply Text.lowerWithin_eq_lower
    · rw [← Bool.and_eq_true, hend]
      exact Bool.false_ne_true
    · rw [← Bool.and_eq_true, hstart]
      exact Bool.false_ne_true
  rw [Text.lower_append, hsame]
  refine compare_iff.mpr ⟨_, _, ⟨fun hclosed => ?_, fun hclosed => ?_⟩, rfl⟩
  · rw [h.before hclosed]
    rfl
  · rw [h.after hclosed]
    rfl

/-- Whether ignoring case never loses the expected text: it has no capital sigma at an end that the mode leaves
open. -/
def settles (mode : TextMode) (expected : List Char) : Bool :=
  !(mode.opensAfter && Text.endsInSigma expected) && !(mode.opensBefore && Text.startsWithSigma expected [])

theorem startsWithSigma_nil (h : Text.startsWithSigma expected after = true) :
    Text.startsWithSigma expected [] = true := by
  obtain ⟨first, rest, rfl, hfirst, hface⟩ := Text.startsWithSigma_iff.mp h
  refine Text.startsWithSigma_iff.mpr ⟨first, rest, rfl, hfirst, ?_⟩
  rw [List.append_nil]
  by_cases hrest : ∀ c ∈ rest, Text.caseIgnorable.contains c = true
  · exact Text.facesCased_eq_false_of_ignorable hrest
  · rw [Text.facesCased_append_of_not_ignorable hrest] at hface
    exact hface

theorem Fits.turns_eq_false (h : mode.Fits before after) (hs : mode.settles expected = true) :
    Text.turns before expected after = false := by
  rw [settles, Bool.and_eq_true, Bool.not_eq_true', Bool.not_eq_true'] at hs
  obtain ⟨hafter, hbefore⟩ := hs
  rw [Text.turns, Bool.or_eq_false_iff]
  constructor
  · cases hopen : mode.opensAfter with
    | true =>
      rw [hopen, Bool.true_and] at hafter
      rw [hafter, Bool.false_and]
    | false =>
      rw [h.after hopen, Bool.and_eq_false_iff]
      exact .inr rfl
  · cases hopen : mode.opensBefore with
    | true =>
      rw [hopen, Bool.true_and] at hbefore
      rw [Bool.and_eq_false_iff]
      left
      rw [Bool.eq_false_iff]
      intro hstart
      rw [startsWithSigma_nil hstart] at hbefore
      cases hbefore
    | false =>
      rw [h.before hopen, Bool.and_eq_false_iff]
      exact .inr rfl

theorem settles_iff : mode.settles expected = true ↔ ∀ actual, mode.compare actual expected = true →
    mode.compare (Text.lower actual) (Text.lower expected) = true := by
  constructor
  · intro hs actual hactual
    obtain ⟨before, after, hfits, rfl⟩ := compare_iff.mp hactual
    exact hfits.compare_lower (hfits.turns_eq_false hs)
  · intro hlaw
    rw [settles, Bool.and_eq_true, Bool.not_eq_true', Bool.not_eq_true']
    constructor
    · rw [Bool.eq_false_iff]
      intro h
      obtain ⟨hopen, hsigma⟩ := Bool.and_eq_true_iff.mp h
      have hmatch : mode.compare (expected ++ ['Α']) expected = true := by
        refine compare_iff.mpr ⟨[], ['Α'], ⟨fun _ => rfl, fun hclosed => ?_⟩, rfl⟩
        rw [hopen] at hclosed
        cases hclosed
      exact Text.not_infix_of_endsInSigma hsigma (infix_of_compare (hlaw _ hmatch))
    · rw [Bool.eq_false_iff]
      intro h
      obtain ⟨hopen, hsigma⟩ := Bool.and_eq_true_iff.mp h
      have hmatch : mode.compare ('Α' :: expected) expected = true := by
        refine compare_iff.mpr ⟨['Α'], [], ⟨fun hclosed => ?_, fun _ => rfl⟩, ?_⟩
        · rw [hopen] at hclosed
          cases hclosed
        · rw [List.append_nil, List.singleton_append]
      exact Text.not_infix_of_startsWithSigma hsigma (infix_of_compare (hlaw _ hmatch))

end TextMode

namespace Leaf
variable {s : Snapshot} {d : Document} {field expected : String} {mode : TextMode}

theorem evaluate_text_sensitive_iff : Leaf.evaluate s d ⟨field, .text expected mode true⟩ = .ok true ↔
    ∃ v ∈ s.fieldValues d field, mode.compare v.toList expected.toList = true := by
  simp [evaluate_eq, Test.question]

theorem evaluate_text_insensitive_iff : Leaf.evaluate s d ⟨field, .text expected mode false⟩ = .ok true ↔
    ∃ v ∈ s.fieldValues d field,
      mode.compare (Text.lower v.toList) (Text.lower expected.toList) = true := by
  simp [evaluate_eq, Test.question]

/-- Where a test for a text holds with regard to case, it also holds without, unless the values turn a sigma of
the expected text wherever they have it. There are documents with such values exactly when the expected text has
a capital sigma at an end that the mode leaves open. -/
theorem ignoring_case_only_adds_iff (mode : TextMode) (expected : String) :
    (∀ (s : Snapshot) (d : Document) (field : String),
        Leaf.evaluate s d ⟨field, .text expected mode true⟩ = .ok true →
          Leaf.evaluate s d ⟨field, .text expected mode false⟩ = .ok true ∨
            ∀ v ∈ s.fieldValues d field, ∀ before after, mode.Fits before after →
              v.toList = before ++ expected.toList ++ after →
                Text.turns before expected.toList after = true) ∧
      ((∀ (s : Snapshot) (d : Document) (field : String),
          Leaf.evaluate s d ⟨field, .text expected mode true⟩ = .ok true →
            Leaf.evaluate s d ⟨field, .text expected mode false⟩ = .ok true) ↔
        mode.settles expected.toList = true) := by
  refine ⟨fun s d field _ => ?_, ?_, fun hs s d field h => ?_⟩
  · by_cases hlost : ∀ v ∈ s.fieldValues d field, ∀ before after, mode.Fits before after →
        v.toList = before ++ expected.toList ++ after → Text.turns before expected.toList after = true
    · exact .inr hlost
    · left
      simp only [not_forall, Bool.not_eq_true] at hlost
      obtain ⟨v, hv, before, after, hfits, he, hturns⟩ := hlost
      refine evaluate_text_insensitive_iff.mpr ⟨v, hv, ?_⟩
      rw [he]
      exact hfits.compare_lower hturns
  · intro hlaw
    refine TextMode.settles_iff.mpr fun actual hactual => ?_
    obtain ⟨s, hs⟩ : ∃ s, Snapshot.build {} none = .ok s := ⟨_, rfl⟩
    have hvalues : s.fieldValues ((Document.new "").setField "text" (String.ofList actual)) "text" =
        [String.ofList actual] := by
      have hresolve : s.resolveField "text" = ["text"] := by
        cases hs
        rfl
      rw [Snapshot.fieldValues, hresolve, List.flatMap_singleton, Document.values_setField]
    have hsensitive : Leaf.evaluate s ((Document.new "").setField "text" (String.ofList actual))
        ⟨"text", .text expected mode true⟩ = .ok true := by
      rw [evaluate_text_sensitive_iff, hvalues]
      exact ⟨_, List.mem_singleton_self _, by rw [String.toList_ofList]; exact hactual⟩
    have hinsensitive := hlaw s _ "text" hsensitive
    rw [evaluate_text_insensitive_iff, hvalues] at hinsensitive
    obtain ⟨v, hv, hcompare⟩ := hinsensitive
    rw [List.mem_singleton.mp hv, String.toList_ofList] at hcompare
    exact hcompare
  · obtain ⟨v, hv, hcompare⟩ := evaluate_text_sensitive_iff.mp h
    exact evaluate_text_insensitive_iff.mpr ⟨v, hv, TextMode.settles_iff.mp hs _ hcompare⟩

/-- A road is no longer found in a road surface, whose sigma does not end the word. -/
theorem evaluate_text_of_roadSurface :
    ∃ s, Snapshot.build {} none = .ok s ∧
      Leaf.evaluate s ((Document.new "works").setField "title" "ΟΔΟΣΤΡΩΜΑ")
          ⟨"title", .text "ΟΔΟΣ" .startsWith true⟩ = .ok true ∧
        Leaf.evaluate s ((Document.new "works").setField "title" "ΟΔΟΣΤΡΩΜΑ")
          ⟨"title", .text "ΟΔΟΣ" .startsWith false⟩ = .ok false := by
  obtain ⟨s, hs⟩ : ∃ s, Snapshot.build {} none = .ok s := ⟨_, rfl⟩
  refine ⟨s, hs, ?_⟩
  cases hs
  decide +kernel

end Leaf

end Filing
