import Filing.Calendar.Reading
import Filing.Condition.Reading
import Filing.Configuration
import Filing.Json.Reading
import Filing.Policy.Reading

/-!
# Reading configurations

The records of a configuration, each with its fields in order. Lists that are missing are empty.
-/

namespace Filing

def IdSet.read? (node : Node) : Option IdSet := (node.list? Node.id?).map Index.ofList

def Instant.read? (node : Node) : Option Instant :=
  node.text?.bind fun text => Instant.ofText? text.toList

def Entry.read? (node : Node) : Option Entry := do
  match ← node.fields? ["order", "stop_on_match", "collection_ids", "default_collection_id"] with
  | [order, stopOnMatch, collectionIds, defaultCollectionId] =>
    return {
      order := ← Node.required Node.rank? order
      stopOnMatch := ← Node.withDefault Node.bool? false stopOnMatch
      collectionIds := ← Node.required IdSet.read? collectionIds
      defaultCollectionId :=
        ← Node.withDefault (Node.optional? Node.id?) none defaultCollectionId }
  | _ => none

def Sequence.read? (node : Node) : Option Sequence := do
  match ← node.fields? ["id", "name", "description", "entries"] with
  | [id, name, description, entries] =>
    return {
      id := ← Node.required Node.id? id
      name := ← Node.required Node.text? name
      description := ← Node.withDefault (Node.optional? Node.text?) none description
      entries := ← Node.withDefault (Node.list? Entry.read?) [] entries }
  | _ => none

def Collection.read? (node : Node) : Option Collection := do
  match ← node.fields? ["id", "name", "description", "condition", "policy_ids"] with
  | [id, name, description, condition, policyIds] =>
    return {
      id := ← Node.required Node.id? id
      name := ← Node.required Node.text? name
      description := ← Node.withDefault (Node.optional? Node.text?) none description
      condition := ← Node.required Condition.read? condition
      policyIds := ← Node.withDefault IdSet.read? .empty policyIds }
  | _ => none

def SharedCondition.read? (node : Node) : Option SharedCondition := do
  match ← node.fields? ["id", "name", "condition"] with
  | [id, name, condition] =>
    return {
      id := ← Node.required Node.id? id
      name := ← Node.withDefault Node.text? "" name
      condition := ← Node.required Condition.read? condition }
  | _ => none

def FieldLabel.read? (node : Node) : Option FieldLabel := do
  match ← node.fields? ["name", "fields"] with
  | [name, fields] =>
    return {
      name := ← Node.required Node.text? name
      fields := ← Node.required (Node.list? Node.text?) fields }
  | _ => none

def Lexicon.read? (node : Node) : Option Lexicon := do
  match ← node.fields? ["id", "name", "terms"] with
  | [id, name, terms] =>
    return {
      id := ← Node.required Node.id? id
      name := ← Node.withDefault Node.text? "" name
      terms := ← Node.withDefault (Node.list? Node.text?) [] terms }
  | _ => none

namespace Configuration

def fieldNames : List String :=
  ["last_modified", "sequences", "collections", "conditions", "field_labels", "lexicons", "policies",
    "policy_types"]

def read? (node : Node) : Option Configuration := do
  match ← node.fields? fieldNames with
  | [lastModified, sequences, collections, conditions, fieldLabels, lexicons, policies,
      policyTypes] =>
    return {
      lastModified := ← Node.withDefault (Node.optional? Instant.read?) none lastModified
      sequences := ← Node.withDefault (Node.list? Sequence.read?) [] sequences
      collections := ← Node.withDefault (Node.list? Collection.read?) [] collections
      conditions := ← Node.withDefault (Node.list? SharedCondition.read?) [] conditions
      fieldLabels := ← Node.withDefault (Node.list? FieldLabel.read?) [] fieldLabels
      lexicons := ← Node.withDefault (Node.list? Lexicon.read?) [] lexicons
      policies := ← Node.withDefault (Node.list? Policy.read?) [] policies
      policyTypes := ← Node.withDefault (Node.list? PolicyType.read?) [] policyTypes }
  | _ => none

end Configuration

end Filing
