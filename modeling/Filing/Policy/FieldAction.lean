import Filing.Document
import Filing.Error
import Filing.Policy

/-!
# Field actions

The details of a policy of a built-in type are a list of field actions, each of which sets a field to one
value or adds a value to it. `FieldAction.parseDetails` reads such details; the members of an object are
looked at in ascending order of their names, and the first problem is the one that is told.
-/

namespace Filing

inductive ActionKind where
  | set
  | add
deriving DecidableEq, Repr

structure FieldAction where
  name : String
  kind : ActionKind
  value : String
deriving DecidableEq, Repr

namespace ActionKind

def name : ActionKind → String
  | .set => "SET_FIELD_VALUE"
  | .add => "ADD_FIELD_VALUE"

def ofName (name : String) : Except DetailsFault ActionKind :=
  if name = "SET_FIELD_VALUE" then .ok .set
  else if name = "ADD_FIELD_VALUE" then .ok .add
  else .error (.unknownAction name)

/-- A kind is its name, or an object with its name as the only key and null as the value. -/
def parse : Json → Except DetailsFault ActionKind
  | .string s => ofName s
  | .object [(name, x)] => do
    let kind ← ofName name
    if x = .null then return kind else throw (.wrongType x .nothing)
  | .object _ => .error .notOneAction
  | json => .error (.wrongType json .actionKind)

end ActionKind

namespace FieldAction

def apply (a : FieldAction) (d : Document) : Document :=
  match a.kind with
  | .set => d.setField a.name a.value
  | .add => d.addValue a.name a.value

def applyAll (d : Document) (actions : List FieldAction) : Document :=
  actions.foldl (fun d a => a.apply d) d

def parseText : Json → Except DetailsFault String
  | .string s => .ok s
  | json => .error (.wrongType json .text)

structure Parts where
  name : Option String := none
  kind : Option ActionKind := none
  value : Option String := none

/-- Reads the members of an action; others than its three are passed over. -/
def parseMembers (parts : Parts) : List (String × Json) → Except DetailsFault Parts
  | [] => .ok parts
  | (key, x) :: rest => do
    let parts ←
      if key = "name" then do
        let s ← parseText x
        pure { parts with name := some s }
      else if key = "action" then do
        let k ← ActionKind.parse x
        pure { parts with kind := some k }
      else if key = "value" then do
        let s ← parseText x
        pure { parts with value := some s }
      else pure parts
    parseMembers parts rest

def ofParts (parts : Parts) : Except DetailsFault FieldAction := do
  let name ← (match parts.name with
    | some s => pure s
    | none => throw (.missingField "name"))
  let kind ← (match parts.kind with
    | some k => pure k
    | none => throw (.missingField "action"))
  let value ← (match parts.value with
    | some s => pure s
    | none => throw (.missingField "value"))
  return ⟨name, kind, value⟩

/-- Reads an action: an object, or an array of its name, its kind and its value. -/
def parse : Json → Except DetailsFault FieldAction
  | .object members => do ofParts (← parseMembers {} members)
  | .array [] => .error (.tooShort 0 .action 3)
  | .array [name] => do
    let _ ← parseText name
    throw (.tooShort 1 .action 3)
  | .array [name, kind] => do
    let _ ← parseText name
    let _ ← ActionKind.parse kind
    throw (.tooShort 2 .action 3)
  | .array (name :: kind :: value :: rest) => do
    let name ← parseText name
    let kind ← ActionKind.parse kind
    let value ← parseText value
    if rest.isEmpty then return ⟨name, kind, value⟩ else throw (.tooLong (rest.length + 3))
  | json => .error (.wrongType json .action)

def parseList : Json → Except DetailsFault (List FieldAction)
  | .array items => items.mapM parse
  | json => .error (.wrongType json .actionList)

def parseDetailsMembers (found : Option (List FieldAction)) :
    List (String × Json) → Except DetailsFault (Option (List FieldAction))
  | [] => .ok found
  | (key, x) :: rest =>
    if key = "fieldActions" then do
      let actions ← parseList x
      parseDetailsMembers (some actions) rest
    else parseDetailsMembers found rest

/-- Reads details: an object with a list of actions, or an array of just that list. -/
def parseDetails : Json → Except DetailsFault (List FieldAction)
  | .object members => do
    match ← parseDetailsMembers none members with
    | some actions => return actions
    | none => throw (.missingField "fieldActions")
  | .array [] => .error (.tooShort 0 .details 1)
  | .array (x :: rest) => do
    let actions ← parseList x
    if rest.isEmpty then return actions else throw (.tooLong (rest.length + 1))
  | json => .error (.wrongType json .details)

def toJson (a : FieldAction) : Json :=
  .object [("name", .string a.name), ("action", .string a.kind.name), ("value", .string a.value)]

def detailsJson (actions : List FieldAction) : Json :=
  .object [("fieldActions", .array (actions.map toJson))]

end FieldAction

namespace Policy

def fieldActions (p : Policy) : Except Error (List FieldAction) :=
  match FieldAction.parseDetails p.details with
  | .ok actions => .ok actions
  | .error fault => .error (.policyDetails p.id fault)

end Policy

end Filing
