import Filing.Error

/-!
# Diagnostics

A problem that was met and recovered from: what it concerns and the error.
-/

namespace Filing

inductive Scope where
  | snapshot
  | collection (id : Int)
  | policy (id : Int)
  | policyType (id : Int)
deriving DecidableEq

structure Diagnostic where
  scope : Scope
  error : Error
deriving DecidableEq

namespace Scope

def toJson : Scope → Json
  | .snapshot => .object [("type", .string "snapshot")]
  | .collection id => .object [("type", .string "collection"), ("collection_id", .int id)]
  | .policy id => .object [("type", .string "policy"), ("policy_id", .int id)]
  | .policyType id => .object [("type", .string "policy_type"), ("policy_type_id", .int id)]

end Scope

def Error.members (e : Error) : List (String × Json) :=
  [("kind", .string e.kind), ("message", .string e.message)]

def Diagnostic.toJson (d : Diagnostic) : Json :=
  .object (("scope", d.scope.toJson) :: d.error.members)

end Filing
