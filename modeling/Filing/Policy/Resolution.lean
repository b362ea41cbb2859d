import Filing.Error
import Filing.Policy

/-!
# Resolving policies

Of several policies of one type those of the highest priority hold, in ascending order of their
identifiers.
-/

namespace Filing.Policy

def topPriority? (policies : List Policy) : Option Int := (policies.map Policy.priority).max?

def resolve (policies : List Policy) : Except Error (List Policy) :=
  let types : IdSet := .ofList (policies.map Policy.typeId)
  if 1 < types.size then .error (.mixedPolicyType types.items)
  else
    match topPriority? policies with
    | none => .ok []
    | some top => .ok (sortOn Policy.id (policies.filter fun p => p.priority == top))

end Filing.Policy
