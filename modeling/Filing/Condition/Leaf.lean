import Filing.Calendar.Reading
import Filing.Snapshot
import Filing.Text.Lowercase

/-!
# Evaluating leaves

A leaf puts its test to the values of the fields that its name stands for. What the test needs is made ready before
the values are looked at, which may fail. Values that are no dates or no numbers are passed over. The terms of a
lexicon are looked for together, without regard to case.
-/

namespace Filing

def occursIn (part : List Char) : List Char → Bool
  | [] => part.isEmpty
  | c :: rest => part.isPrefixOf (c :: rest) || occursIn part rest

def TextMode.compare (mode : TextMode) (actual expected : List Char) : Bool :=
  match mode with
  | .equals => actual == expected
  | .contains => occursIn expected actual
  | .startsWith => expected.isPrefixOf actual
  | .endsWith => expected.isSuffixOf actual

def DateOperator.compare (operator : DateOperator) (actual expected : Instant) : Bool :=
  match operator with
  | .before => actual.before expected
  | .after => expected.before actual
  | .on => actual.day == expected.day

def NumberOperator.compare (operator : NumberOperator) (actual expected : Double) : Bool :=
  match operator with
  | .less => actual.lt expected
  | .lessOrEqual => actual.le expected
  | .equal => actual.eq expected
  | .greaterOrEqual => expected.le actual
  | .greater => expected.lt actual

/-- A search of a text for several parts together: whether one of them occurs. -/
abbrev Search := List (List Char) → List Char → Bool

def anyOccursIn (parts : List (List Char)) : List Char → Bool
  | [] => parts.any List.isEmpty
  | c :: rest => parts.any (·.isPrefixOf (c :: rest)) || anyOccursIn parts rest

/-- The terms to look for, in lower form and each once. -/
abbrev Terms := Index fun term : String => term

namespace Terms

/-- Whether a value has one of the terms, in any case: as all of it, which is looked up among the terms, or as a
part, which is searched for. -/
def hitsBy (search : Search) (terms : Terms) (wholeValue : Bool) (value : String) : Bool :=
  let folded := Text.lower value.toList
  if wholeValue then terms.contains (.ofList folded)
  else search (terms.items.map String.toList) folded

def hitsAny (terms : Terms) (wholeValue : Bool) (values : List String) : Bool :=
  if terms.items.isEmpty then false else values.any (terms.hitsBy anyOccursIn wholeValue)

end Terms

def Lexicon.foldedTerms (lexicon : Lexicon) : Terms :=
  .ofList (lexicon.terms.map fun term => .ofList (Text.lower term.toList))

def Lexicon.hitsBy (search : Search) (lexicon : Lexicon) (wholeValue : Bool) (value : String) : Bool :=
  lexicon.foldedTerms.hitsBy search wholeValue value

def Lexicon.hits (lexicon : Lexicon) (wholeValue : Bool) (value : String) : Bool :=
  lexicon.hitsBy anyOccursIn wholeValue value

def Snapshot.terms (s : Snapshot) (id : Int) : Except ConditionFault Terms :=
  match s.lexicon? id with
  | some lexicon => .ok lexicon.foldedTerms
  | none => .error (.lexiconNotFound id)

def Pattern.ready (p : String) : Except ConditionFault Pattern :=
  match Pattern.compile p with
  | .ok pattern => .ok pattern
  | .error fault => .error (.invalidPattern p fault)

def numberOfValue? (value : String) : Option Double := Double.ofChars? (Text.trim value.toList)

/-- Puts a test to the values of a field, given what comes of making patterns and lexicons ready. -/
def Test.judge (pattern : String → Except ConditionFault Pattern) (terms : Int → Except ConditionFault Terms)
    (field : String) (values : List String) : Test → Except ConditionFault Bool
  | .text expected mode true => .ok (values.any fun v => mode.compare v.toList expected.toList)
  | .text expected mode false =>
    let expected := Text.lower expected.toList
    .ok (values.any fun v => mode.compare (Text.lower v.toList) expected)
  | .regex p => do
    let pattern ← pattern p
    return values.any fun v => pattern.isMatch v.toList
  | .date operator expected =>
    match Instant.ofDateValue? expected with
    | some expected => .ok ((values.filterMap Instant.ofDateValue?).any (operator.compare · expected))
    | none => .error (.invalidDate expected field)
  | .number operator expected => .ok ((values.filterMap numberOfValue?).any (operator.compare · expected))
  | .present => .ok !values.isEmpty
  | .lexicon id wholeValue => do
    let terms ← terms id
    return terms.hitsAny wholeValue values
  | .expression e => .error (.needsEvaluator e)

def Leaf.evaluateWith (pattern : String → Except ConditionFault Pattern)
    (terms : Int → Except ConditionFault Terms) (s : Snapshot) (d : Document) (l : Leaf) : Except Error Bool :=
  match l.test.judge pattern terms l.field (s.fieldValues d l.field) with
  | .ok verdict => .ok verdict
  | .error fault => .error (.conditionEvaluation fault)

def Leaf.evaluate (s : Snapshot) (d : Document) (l : Leaf) : Except Error Bool :=
  l.evaluateWith Pattern.ready s.terms s d

def Condition.evaluateLeaf (s : Snapshot) (d : Document) : Condition → Except Error Bool
  | .leaf l => l.evaluate s d
  | c => .error (.conditionEvaluation (.notALeaf c.kind))

end Filing
