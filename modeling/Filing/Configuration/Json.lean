import Filing.Calendar.Text
import Filing.Condition.Json
import Filing.Configuration
import Filing.Policy.Reading

/-!
# Writing configurations

The written form of a configuration and of its records. An optional part is written only when it is
there, and every other part always.
-/

namespace Filing

def Entry.toJson (e : Entry) : Json :=
  .object <|
    [("order", .int e.order), ("stop_on_match", .bool e.stopOnMatch),
      ("collection_ids", .ints e.collectionIds.items)]
    ++ Json.optionalMember "default_collection_id" (e.defaultCollectionId.map .int)

def Sequence.toJson (s : Sequence) : Json :=
  .object <|
    [("id", .int s.id), ("name", .string s.name)]
    ++ Json.optionalMember "description" (s.description.map .string)
    ++ [("entries", .array (s.entries.map Entry.toJson))]

def Collection.toJson (c : Collection) : Json :=
  .object <|
    [("id", .int c.id), ("name", .string c.name)]
    ++ Json.optionalMember "description" (c.description.map .string)
    ++ [("condition", c.condition.toJson), ("policy_ids", .ints c.policyIds.items)]

def SharedCondition.toJson (c : SharedCondition) : Json :=
  .object [("id", .int c.id), ("name", .string c.name), ("condition", c.condition.toJson)]

def FieldLabel.toJson (l : FieldLabel) : Json :=
  .object [("name", .string l.name), ("fields", .strings l.fields)]

def Lexicon.toJson (l : Lexicon) : Json :=
  .object [("id", .int l.id), ("name", .string l.name), ("terms", .strings l.terms)]

def Configuration.toJson (c : Configuration) : Json :=
  .object <|
    Json.optionalMember "last_modified" (c.lastModified.map fun t => .string t.text)
    ++ [("sequences", .array (c.sequences.map Sequence.toJson)),
      ("collections", .array (c.collections.map Collection.toJson)),
      ("conditions", .array (c.conditions.map SharedCondition.toJson)),
      ("field_labels", .array (c.fieldLabels.map FieldLabel.toJson)),
      ("lexicons", .array (c.lexicons.map Lexicon.toJson)),
      ("policies", .array (c.policies.map Policy.toJson)),
      ("policy_types", .array (c.policyTypes.map PolicyType.toJson))]

end Filing
