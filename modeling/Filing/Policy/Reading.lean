import Filing.Node.Reading
import Filing.Policy

/-!
# Reading and writing policies

The fields of policies and policy types, read from a tree and written as JSON. A part that is absent is
not written.
-/

namespace Filing

def Json.optionalMember (name : String) : Option Json → List (String × Json)
  | none => []
  | some x => [(name, x)]

def Policy.read? (node : Node) : Option Policy := do
  match ← node.fields? ["id", "name", "description", "type_id", "priority", "details"] with
  | [id, name, description, typeId, priority, details] =>
    return {
      id := ← Node.required Node.id? id
      name := ← Node.withDefault Node.text? "" name
      description := ← Node.withDefault (Node.optional? Node.text?) none description
      typeId := ← Node.required Node.id? typeId
      priority := ← Node.withDefault Node.rank? 0 priority
      details := ← Node.withDefault Node.json? .null details }
  | _ => none

def Policy.toJson (p : Policy) : Json :=
  .object <|
    [("id", .int p.id), ("name", .string p.name)]
    ++ Json.optionalMember "description" (p.description.map .string)
    ++ [("type_id", .int p.typeId), ("priority", .int p.priority), ("details", p.details)]

def PolicyType.read? (node : Node) : Option PolicyType := do
  match ← node.fields? ["id", "short_name", "name", "description", "definition", "handler"] with
  | [id, shortName, name, description, definition, handler] =>
    return {
      id := ← Node.required Node.id? id
      shortName := ← Node.required Node.text? shortName
      name := ← Node.withDefault Node.text? "" name
      description := ← Node.withDefault (Node.optional? Node.text?) none description
      definition := ← Node.withDefault (Node.optional? Node.json?) none definition
      handler := ← Node.required Node.text? handler }
  | _ => none

def PolicyType.toJson (t : PolicyType) : Json :=
  .object <|
    [("id", .int t.id), ("short_name", .string t.shortName), ("name", .string t.name)]
    ++ Json.optionalMember "description" (t.description.map .string)
    ++ Json.optionalMember "definition" t.definition
    ++ [("handler", .string t.handler)]

end Filing
