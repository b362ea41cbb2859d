import Filing.Condition
import Filing.Json.Value

/-!
# Writing conditions

The written form of a condition: its kind first, then its fields with all defaults filled in.
-/

namespace Filing

def TextMode.name : TextMode → String
  | .equals => "equals"
  | .contains => "contains"
  | .startsWith => "starts_with"
  | .endsWith => "ends_with"

def DateOperator.name : DateOperator → String
  | .before => "before"
  | .after => "after"
  | .on => "on"

def NumberOperator.name : NumberOperator → String
  | .less => "lt"
  | .lessOrEqual => "le"
  | .equal => "eq"
  | .greaterOrEqual => "ge"
  | .greater => "gt"

def Test.members : Test → List (String × Json)
  | .text value mode caseSensitive =>
    [("value", .string value), ("mode", .string mode.name), ("case_sensitive", .bool caseSensitive)]
  | .regex pattern => [("pattern", .string pattern)]
  | .date operator value => [("operator", .string operator.name), ("value", .string value)]
  | .number operator value => [("operator", .string operator.name), ("value", .double value)]
  | .present => []
  | .lexicon id wholeValue => [("lexicon_id", .int id), ("whole_value", .bool wholeValue)]
  | .expression words => [("expression", .string words)]

namespace Condition

mutual

def toJson : Condition → Json
  | .leaf l =>
    .object (("type", .string l.test.kind) :: ("field", .string l.field) :: l.test.members)
  | .and cs => .object [("type", .string "and"), ("conditions", .array (toJsonAll cs))]
  | .or cs => .object [("type", .string "or"), ("conditions", .array (toJsonAll cs))]
  | .not c => .object [("type", .string "not"), ("condition", toJson c)]
  | .reference id => .object [("type", .string "reference"), ("condition_id", .int id)]

def toJsonAll : List Condition → List Json
  | [] => []
  | c :: cs => toJson c :: toJsonAll cs

end

end Condition

end Filing
