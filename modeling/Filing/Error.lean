import Filing.Json.Text
import Filing.Pattern.Reading
import Filing.Text.Quoted

/-!
# Errors

Every way in which loading, evaluating or applying rules can fail, as a cause. `Error.kind` is its short
name for reports and counters and `Error.message` its full text.
-/

namespace Filing

def joinTexts (separator : String) (texts : List String) : String :=
  String.ofList ((texts.map String.toList).intersperse separator.toList).flatten

def intText (n : Int) : String := .ofList (Json.intChars n)

def intsText (ns : List Int) : String := "[" ++ joinTexts ", " (ns.map intText) ++ "]"

inductive ConditionFault where
  | invalidPattern (pattern : String) (fault : PatternFault)
  | invalidDate (value field : String)
  | lexiconNotFound (id : Int)
  | needsEvaluator (expression : String)
  | notALeaf (kind : String)
  | tooDeep (id : Int) (limit : Nat)
  | conditionNotFound (id : Int)
  | inCollection (id : Int) (fault : ConditionFault)
  | stated (message : String)
deriving DecidableEq, Repr

namespace ConditionFault

def message : ConditionFault → String
  | .invalidPattern p .malformed =>
    "invalid regex '" ++ p ++ "': regex parse error: not a pattern"
  | .invalidPattern p .tooLarge =>
    "invalid regex '" ++ p ++ "': Compiled regex exceeds size limit of 10485760 bytes."
  | .invalidDate v f => "invalid date '" ++ v ++ "' in condition on '" ++ f ++ "'"
  | .lexiconNotFound id => "lexicon " ++ intText id ++ " not found"
  | .needsEvaluator e => "expression conditions need an external evaluator: '" ++ e ++ "'"
  | .notALeaf kind => "'" ++ kind ++ "' is not a leaf condition"
  | .tooDeep id limit =>
    "reference chain through condition " ++ intText id ++ " exceeds depth " ++ intText limit
  | .conditionNotFound id => "condition " ++ intText id ++ " not found"
  | .inCollection id fault => "collection " ++ intText id ++ ": " ++ fault.message
  | .stated m => m

end ConditionFault

inductive ConfigurationFault where
  /-- Two items of one list have the same identifier, given as it is shown. -/
  | duplicate (what id : String)
  | unknownCollection (sequence order collection : Int)
  | defaultOutside (sequence order collection : Int)
  | unknownPolicy (collection policy : Int)
  | unknownCondition (owner : String) (condition : Int)
  | unknownLexicon (owner : String) (lexicon : Int)
  | unknownPolicyType (policy policyType : Int)
  | unreadable
  | policyTypeNotFound (id : Int)
  | stated (message : String)
deriving DecidableEq, Repr

namespace ConfigurationFault

def message : ConfigurationFault → String
  | .duplicate what id => "Duplicate " ++ what ++ " id " ++ id
  | .unknownCollection s o c =>
    "Sequence " ++ intText s ++ " entry " ++ intText o ++ " references unknown collection "
      ++ intText c
  | .defaultOutside s o c =>
    "Sequence " ++ intText s ++ " entry " ++ intText o ++ " nominates default collection "
      ++ intText c ++ " outside the entry"
  | .unknownPolicy c p =>
    "Collection " ++ intText c ++ " references unknown policy " ++ intText p
  | .unknownCondition owner c => owner ++ " references unknown condition " ++ intText c
  | .unknownLexicon owner l => owner ++ " references unknown lexicon " ++ intText l
  | .unknownPolicyType p t =>
    "Policy " ++ intText p ++ " references unknown policy type " ++ intText t
  | .unreadable => "Failed to parse rule configuration: not a rule configuration"
  | .policyTypeNotFound id => "policy type " ++ intText id ++ " not found"
  | .stated m => m

end ConfigurationFault

inductive DetailsPart where
  | details
  | action
  | actionList
  | text
  | actionKind
  | nothing
deriving DecidableEq, Repr

namespace DetailsPart

def description : DetailsPart → String
  | .details => "struct FieldActionDetails"
  | .action => "struct FieldAction"
  | .actionList => "a sequence"
  | .text => "a string"
  | .actionKind => "string or map"
  | .nothing => "unit"

end DetailsPart

inductive DetailsFault where
  | missingField (name : String)
  | unknownAction (name : String)
  | wrongType (found : Json) (expected : DetailsPart)
  | tooShort (length : Nat) (expected : DetailsPart) (count : Nat)
  | tooLong (length : Nat)
  | notOneAction
  | stated (message : String)
deriving DecidableEq

namespace DetailsFault

def found : Json → String
  | .null => "null"
  | .bool b => "boolean `" ++ (if b then "true" else "false") ++ "`"
  | .int n => "integer `" ++ intText n ++ "`"
  | .double x => "floating point `" ++ String.ofList x.chars ++ "`"
  | .string s => "string " ++ Text.quoted s
  | .array _ => "sequence"
  | .object _ => "map"

def message : DetailsFault → String
  | .missingField name => "missing field `" ++ name ++ "`"
  | .unknownAction name =>
    "unknown variant `" ++ name ++ "`, expected `SET_FIELD_VALUE` or `ADD_FIELD_VALUE`"
  | .wrongType json part => "invalid type: " ++ found json ++ ", expected " ++ part.description
  | .tooShort n part count =>
    "invalid length " ++ intText n ++ ", expected " ++ part.description ++ " with "
      ++ intText count ++ (if count = 1 then " element" else " elements")
  | .tooLong n => "invalid length " ++ intText n ++ ", expected fewer elements in array"
  | .notOneAction => "invalid value: map, expected map with a single key"
  | .stated m => m

end DetailsFault

inductive Error where
  | configurationUnavailable (message : String)
  | sequenceNotFound (id : Int)
  | conditionEvaluation (fault : ConditionFault)
  | mixedPolicyType (types : List Int)
  | policyDetails (policy : Int) (fault : DetailsFault)
  | schemaValidation (policy : Int) (errors : List String)
  | handlerNotFound (binding : String)
  | config (fault : ConfigurationFault)
  | io (message : String)
  | serialization (message : String)
  | timeout
  | cancelled
  | internal (message : String)
deriving DecidableEq

namespace Error

def kind : Error → String
  | .configurationUnavailable _ => "configuration_unavailable"
  | .sequenceNotFound _ => "sequence_not_found"
  | .conditionEvaluation _ => "condition_evaluation"
  | .mixedPolicyType _ => "mixed_policy_type"
  | .policyDetails .. => "policy_details_parse"
  | .schemaValidation .. => "schema_validation"
  | .handlerNotFound _ => "handler_not_found"
  | .config _ => "config"
  | .io _ => "io"
  | .serialization _ => "serialization"
  | .timeout => "timeout"
  | .cancelled => "cancelled"
  | .internal _ => "internal"

def message : Error → String
  | .configurationUnavailable m => "configuration unavailable: " ++ m
  | .sequenceNotFound id => "collection sequence " ++ intText id ++ " not found"
  | .conditionEvaluation fault => "condition evaluation failed: " ++ fault.message
  | .mixedPolicyType types =>
    "policies passed to resolve span multiple policy types: " ++ intsText types
  | .policyDetails policy fault =>
    "policy " ++ intText policy ++ " details could not be parsed: " ++ fault.message
  | .schemaValidation policy errors =>
    "policy " ++ intText policy ++ " failed schema validation: " ++ joinTexts "; " errors
  | .handlerNotFound binding => "no policy handler registered for '" ++ binding ++ "'"
  | .config fault => "configuration error: " ++ fault.message
  | .io m => "io error: " ++ m
  | .serialization m => "serialization error: " ++ m
  | .timeout => "operation timed out"
  | .cancelled => "operation cancelled"
  | .internal m => "internal error: " ++ m

end Error

end Filing
