import Filing.Calendar
import Filing.Condition
import Filing.Index
import Filing.Policy

/-!
# Configurations

A configuration is the whole graph of rules as it is written: sequences of entries that name
collections, collections with a condition and policies, shared conditions, labels for fields, lexicons,
policies and their types. Nothing is checked yet; see `Snapshot`.
-/

namespace Filing

/-- A step of a sequence: the collections that are looked at together. -/
structure Entry where
  order : Int
  stopOnMatch : Bool
  collectionIds : IdSet
  defaultCollectionId : Option Int
deriving DecidableEq

structure Sequence where
  id : Int
  name : String
  description : Option String
  entries : List Entry
deriving DecidableEq

structure Collection where
  id : Int
  name : String
  description : Option String
  condition : Condition
  policyIds : IdSet
deriving DecidableEq

structure SharedCondition where
  id : Int
  name : String
  condition : Condition
deriving DecidableEq

structure FieldLabel where
  name : String
  fields : List String
deriving DecidableEq

structure Lexicon where
  id : Int
  name : String
  terms : List String
deriving DecidableEq

structure Configuration where
  lastModified : Option Instant := none
  sequences : List Sequence := []
  collections : List Collection := []
  conditions : List SharedCondition := []
  fieldLabels : List FieldLabel := []
  lexicons : List Lexicon := []
  policies : List Policy := []
  policyTypes : List PolicyType := []
deriving DecidableEq

end Filing
