import Filing.Configuration
import Filing.Document
import Filing.Error
import Filing.Fingerprint

/-!
# Snapshots

A snapshot is a configuration that has been checked: every item is found under its identifier, entries
are in ascending order, and every reference leads somewhere. `Snapshot.build` gives the first of the
faults that it finds, in a fixed order.
-/

namespace Filing

structure Snapshot where
  fingerprint : String
  persisted : Option Instant
  lastModified : Option Instant
  sequences : Index Sequence.id
  collections : Index Collection.id
  conditions : Index SharedCondition.id
  fieldLabels : Index FieldLabel.name
  lexicons : Index Lexicon.id
  policies : Index Policy.id
  policyTypes : Index PolicyType.id

namespace Snapshot

def sequence? (s : Snapshot) (id : Int) : Option Sequence := s.sequences.get? id

def collection? (s : Snapshot) (id : Int) : Option Collection := s.collections.get? id

def condition? (s : Snapshot) (id : Int) : Option Condition :=
  (s.conditions.get? id).map SharedCondition.condition

def fieldLabel? (s : Snapshot) (name : String) : Option FieldLabel := s.fieldLabels.get? name

def lexicon? (s : Snapshot) (id : Int) : Option Lexicon := s.lexicons.get? id

def policy? (s : Snapshot) (id : Int) : Option Policy := s.policies.get? id

def policyType? (s : Snapshot) (id : Int) : Option PolicyType := s.policyTypes.get? id

/-- The fields that a name stands for: those of the label with this name, or the field itself. Labels
do not stand for labels. -/
def resolveField (s : Snapshot) (field : String) : List String :=
  match s.fieldLabel? field with
  | some label => label.fields
  | none => [field]

def fieldValues (s : Snapshot) (d : Document) (field : String) : List String :=
  (s.resolveField field).flatMap d.values

/-- Entries that name collections that are not there, or a default that is none of their own. -/
def entryFaults (s : Snapshot) (q : Sequence) (e : Entry) : List ConfigurationFault :=
  (e.collectionIds.items.filter fun id => !s.collections.contains id).map
      (.unknownCollection q.id e.order ·)
    ++ (e.defaultCollectionId.toList.filter fun id => !e.collectionIds.contains id).map
      (.defaultOutside q.id e.order ·)

def conditionFaults (s : Snapshot) (owner : String) (c : Condition) : List ConfigurationFault :=
  (c.referencedConditions.filter fun id => !s.conditions.contains id).map
      (.unknownCondition owner ·)
    ++ (c.referencedLexicons.filter fun id => !s.lexicons.contains id).map
      (.unknownLexicon owner ·)

def collectionFaults (s : Snapshot) (c : Collection) : List ConfigurationFault :=
  (c.policyIds.items.filter fun id => !s.policies.contains id).map (.unknownPolicy c.id ·)
    ++ s.conditionFaults ("collection " ++ intText c.id) c.condition

/-- All references that lead nowhere: those of sequences, collections, shared conditions and policies,
each by ascending identifier. -/
def faults (s : Snapshot) : List ConfigurationFault :=
  s.sequences.items.flatMap (fun q => q.entries.flatMap (s.entryFaults q))
    ++ s.collections.items.flatMap s.collectionFaults
    ++ s.conditions.items.flatMap
      (fun c => s.conditionFaults ("condition " ++ intText c.id) c.condition)
    ++ (s.policies.items.filter fun p => !s.policyTypes.contains p.typeId).map
      (fun p => .unknownPolicyType p.id p.typeId)

def index {α κ : Type} [LT κ] [DecidableLT κ] [KeyOrder κ] (key : α → κ) (what : String)
    (shown : κ → String) (items : List α) : Except Error (Index key) :=
  match Index.ofDistinct items with
  | .ok s => .ok s
  | .error k => .error (.config (.duplicate what (shown k)))

def arrange (q : Sequence) : Sequence := { q with entries := sortOn Entry.order q.entries }

/-- Builds the snapshot of a configuration; `persisted` is when the configuration was stored. -/
def build (c : Configuration) (persisted : Option Instant) : Except Error Snapshot := do
  let sequences ← index Sequence.id "collection sequence" intText (c.sequences.map arrange)
  let collections ← index Collection.id "collection" intText c.collections
  let conditions ← index SharedCondition.id "condition" intText c.conditions
  let fieldLabels ← index FieldLabel.name "field label" Text.quoted c.fieldLabels
  let lexicons ← index Lexicon.id "lexicon" intText c.lexicons
  let policies ← index Policy.id "policy" intText c.policies
  let policyTypes ← index PolicyType.id "policy type" intText c.policyTypes
  let s : Snapshot := {
    fingerprint := c.fingerprint
    persisted := persisted
    lastModified := c.lastModified
    sequences := sequences
    collections := collections
    conditions := conditions
    fieldLabels := fieldLabels
    lexicons := lexicons
    policies := policies
    policyTypes := policyTypes }
  match s.faults with
  | [] => .ok s
  | fault :: _ => .error (.config fault)

def counts (s : Snapshot) : List (String × Nat) :=
  [("sequences", s.sequences.size), ("collections", s.collections.size),
    ("conditions", s.conditions.size), ("field_labels", s.fieldLabels.size),
    ("lexicons", s.lexicons.size), ("policies", s.policies.size),
    ("policy_types", s.policyTypes.size)]

end Snapshot

end Filing
