import Filing.Configuration.Json
import Filing.Digest
import Filing.Json.Text

/-!
# Fingerprints

The fingerprint of a configuration is the digest of its canonical text: all lists in ascending order of
their identifiers, entries in ascending order of `order`, and nothing about when it was last modified.
-/

namespace Filing

/-- The canonical form of a sequence; its description is always there. -/
def Sequence.canonicalJson (s : Sequence) : Json :=
  .object [("id", .int s.id), ("name", .string s.name),
    ("description", (s.description.map Json.string).getD .null),
    ("entries", .array ((sortOn Entry.order s.entries).map Entry.toJson))]

namespace Configuration

def canonicalJson (c : Configuration) : Json :=
  .object [
    ("sequences", .array ((sortOn Sequence.id c.sequences).map Sequence.canonicalJson)),
    ("collections", .array ((sortOn Collection.id c.collections).map Collection.toJson)),
    ("conditions", .array ((sortOn SharedCondition.id c.conditions).map SharedCondition.toJson)),
    ("field_labels", .array ((sortOn FieldLabel.name c.fieldLabels).map FieldLabel.toJson)),
    ("lexicons", .array ((sortOn Lexicon.id c.lexicons).map Lexicon.toJson)),
    ("policies", .array ((sortOn Policy.id c.policies).map Policy.toJson)),
    ("policy_types", .array ((sortOn PolicyType.id c.policyTypes).map PolicyType.toJson))]

def canonicalBytes (c : Configuration) : List UInt8 :=
  c.canonicalJson.text.toUTF8.toList

def fingerprint (c : Configuration) : String := Digest.sha256 c.canonicalBytes

end Configuration

end Filing
