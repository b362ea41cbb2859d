import Filing.Condition.Leaf

/-!
# One question to all values

Each kind of test goes through the values in its own way: some pass over values that they cannot read, one only looks
whether there are any, and a lexicon without terms does not look at them. All of it comes to a question that is put to
each value, and to whether one of them answers it.
-/

namespace Filing

theorem anyOccursIn_nil (text : List Char) : anyOccursIn [] text = false := by
  induction text with
  | nil => rfl
  | cons c rest ih => rw [anyOccursIn, List.any_nil, Bool.false_or, ih]

namespace Terms
variable {terms : Terms} {wholeValue : Bool} {value : String}

theorem hitsBy_of_isEmpty (h : terms.items.isEmpty = true) : terms.hitsBy anyOccursIn wholeValue value = false := by
  obtain ⟨items, ascending⟩ := terms
  obtain rfl := List.isEmpty_iff.mp h
  cases wholeValue with
  | true => rfl
  | false => exact anyOccursIn_nil _

theorem hitsAny_eq (terms : Terms) (wholeValue : Bool) (values : List String) :
    terms.hitsAny wholeValue values = values.any (terms.hitsBy anyOccursIn wholeValue) := by
  unfold hitsAny
  split
  · rename_i hempty
    exact (List.any_eq_false.mpr fun value _ => by simp [hitsBy_of_isEmpty hempty]).symm
  · rfl

end Terms

theorem any_filterMap {α β : Type} (f : α → Option β) (p : β → Bool) (xs : List α) :
    (xs.filterMap f).any p = xs.any fun x => (f x).any p := by
  rw [List.any_filterMap]
  refine congrArg xs.any (funext fun x => ?_)
  cases f x <;> rfl

namespace Test

def question (s : Snapshot) (field : String) : Test → Except ConditionFault (String → Bool)
  | .text expected mode true => .ok fun v => mode.compare v.toList expected.toList
  | .text expected mode false => .ok fun v => mode.compare (Text.lower v.toList) (Text.lower expected.toList)
  | .regex p =>
    match Pattern.compile p with
    | .ok pattern => .ok fun v => pattern.isMatch v.toList
    | .error fault => .error (.invalidPattern p fault)
  | .date operator expected =>
    match Instant.ofDateValue? expected with
    | some expected => .ok fun v => (Instant.ofDateValue? v).any (operator.compare · expected)
    | none => .error (.invalidDate expected field)
  | .number operator expected => .ok fun v => (numberOfValue? v).any (operator.compare · expected)
  | .present => .ok fun _ => true
  | .lexicon id wholeValue =>
    match s.lexicon? id with
    | some found => .ok (found.hits wholeValue)
    | none => .error (.lexiconNotFound id)
  | .expression e => .error (.needsEvaluator e)

theorem judge_eq_any (s : Snapshot) (field : String) (values : List String) (t : Test) :
    t.judge Pattern.ready s.terms field values = (t.question s field).map values.any := by
  cases t with
  | text expected mode caseSensitive => cases caseSensitive <;> rfl
  | regex p =>
    simp only [judge, question, Pattern.ready]
    cases Pattern.compile p <;> rfl
  | date operator expected =>
    simp only [judge, question]
    cases Instant.ofDateValue? expected with
    | none => rfl
    | some instant => exact congrArg Except.ok (any_filterMap Instant.ofDateValue? _ values)
  | number operator expected => exact congrArg Except.ok (any_filterMap numberOfValue? _ values)
  | present =>
    refine congrArg Except.ok ?_
    cases values <;> rfl
  | lexicon id wholeValue =>
    simp only [judge, question, Snapshot.terms]
    cases s.lexicon? id with
    | none => rfl
    | some lexicon => exact congrArg Except.ok (lexicon.foldedTerms.hitsAny_eq wholeValue values)
  | expression e => rfl

end Test

theorem Leaf.evaluate_eq (s : Snapshot) (d : Document) (l : Leaf) :
    l.evaluate s d =
      match l.test.question s l.field with
      | .ok question => .ok ((s.fieldValues d l.field).any question)
      | .error fault => .error (.conditionEvaluation fault) := by
  rw [evaluate, evaluateWith, Test.judge_eq_any]
  cases l.test.question s l.field <;> rfl

end Filing
