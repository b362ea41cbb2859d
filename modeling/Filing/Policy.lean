import Filing.Json.Value

/-!
# Policies and policy types

A policy changes the documents of the collections it is attached to. Its details are free data for the
handler of its type; the type may give a schema for them. There are two built-in types, for metadata and
for tags, whose details are lists of field actions.
-/

namespace Filing

structure Policy where
  id : Int
  name : String
  description : Option String
  typeId : Int
  priority : Int
  details : Json
deriving DecidableEq

structure PolicyType where
  id : Int
  shortName : String
  name : String
  description : Option String
  definition : Option Json
  handler : String
deriving DecidableEq

def metadataBinding : String := "metadata_policy"
def tagBinding : String := "tag_policy"

namespace PolicyType

def nameSchema : Json := .object [("minLength", .int 1), ("type", .string "string")]

def actionSchema : Json :=
  .object [("enum", .strings ["SET_FIELD_VALUE", "ADD_FIELD_VALUE"]), ("type", .string "string")]

def textSchema : Json := .object [("type", .string "string")]

def fieldActionSchema : Json :=
  .object [
    ("properties",
      .object [("action", actionSchema), ("name", nameSchema), ("value", textSchema)]),
    ("required", .strings ["name", "action", "value"]),
    ("type", .string "object")]

def fieldActionsSchema : Json :=
  .object [
    ("$schema", .string "http://json-schema.org/draft-07/schema#"),
    ("properties",
      .object [("fieldActions",
        .object [("items", fieldActionSchema), ("type", .string "array")])]),
    ("required", .strings ["fieldActions"]),
    ("type", .string "object")]

def metadata (id : Int) : PolicyType where
  id := id
  shortName := "MetadataPolicy"
  name := "Metadata Policy"
  description := some "Sets or adds document metadata field values"
  definition := some fieldActionsSchema
  handler := metadataBinding

def tag (id : Int) : PolicyType where
  id := id
  shortName := "TagPolicy"
  name := "Tag Policy"
  description := some "Tags documents with classification values"
  definition := some fieldActionsSchema
  handler := tagBinding

end PolicyType

end Filing
