import Filing.Diagnostic
import Filing.Policy.Handler
import Filing.Snapshot

/-!
# Applying policies

The policies of all matched collections are grouped by their types. Type by type, and policy by policy in
ascending order, each is validated and applied. A failure leaves a diagnostic; the built-in handlers do not
change the document then. A handler that stops ends the application of everything after it.
-/

namespace Filing

/-- What is wrong with details according to the schema of their type. -/
abbrev Validator := Json → Json → List String

namespace Policy

def validate (validator : Validator) (p : Policy) (t : PolicyType) : Except Error Unit :=
  match t.definition with
  | none => .ok ()
  | some schema =>
    match validator p.details schema with
    | [] => .ok ()
    | errors => .error (.schemaValidation p.id errors)

end Policy

def firstOccurrences (seen : List Int) : List Int → List Int
  | [] => []
  | id :: ids =>
    if seen.contains id then firstOccurrences seen ids
    else id :: firstOccurrences (id :: seen) ids

namespace Snapshot

def policiesOf (s : Snapshot) (matched : IdSet) : List Policy :=
  let ids := (matched.items.filterMap s.collection?).flatMap fun c => c.policyIds.items
  (firstOccurrences [] ids).filterMap s.policy?

def policyGroups (s : Snapshot) (matched : IdSet) : List (Int × List Policy) :=
  let policies := s.policiesOf matched
  let types : IdSet := .ofList (policies.map Policy.typeId)
  types.items.map fun t => (t, policies.filter fun p => p.typeId == t)

end Snapshot

structure Attempt where
  binding : String
  policy : Int
  sequence : Int
deriving DecidableEq

structure Application where
  document : Document
  applied : List Int
  diagnostics : List Diagnostic
  attempts : List Attempt
  stopped : Bool

namespace Application

def start (d : Document) : Application := ⟨d, [], [], [], false⟩

def report (a : Application) (scope : Scope) (e : Error) : Application :=
  { a with diagnostics := a.diagnostics ++ [Diagnostic.mk scope e] }

def attempt (h : Handler) (binding : String) (sequence : Int) (a : Application) (p : Policy) :
    Application :=
  let (d, outcome) := h.apply a.document p sequence
  let a := { a with document := d, attempts := a.attempts ++ [Attempt.mk binding p.id sequence] }
  match outcome with
  | .ok outcome => { a with applied := a.applied ++ [p.id], stopped := outcome == Outcome.stop }
  | .error e => a.report (.policy p.id) e

def step (validator : Validator) (h : Handler) (t : PolicyType) (sequence : Int)
    (a : Application) (p : Policy) : Application :=
  if a.stopped then a
  else
    match p.validate validator t with
    | .ok () => a.attempt h t.handler sequence p
    | .error e => a.report (.policy p.id) e

def applyGroup (registry : Registry) (validator : Validator) (s : Snapshot) (sequence : Int)
    (a : Application) (group : Int × List Policy) : Application :=
  if a.stopped then a
  else
    match s.policyType? group.1 with
    | none => a.report (.policyType group.1) (.config (.policyTypeNotFound group.1))
    | some t =>
      match registry.handlerFor t with
      | .error e => a.report (.policyType group.1) e
      | .ok h =>
        match h.resolve a.document group.2 with
        | .error e => a.report (.policyType group.1) e
        | .ok policies => (sortOn Policy.id policies).foldl (step validator h t sequence) a

def run (registry : Registry) (validator : Validator) (s : Snapshot) (sequence : Int)
    (d : Document) (matched : IdSet) : Application :=
  (s.policyGroups matched).foldl (applyGroup registry validator s sequence) (start d)

end Application

end Filing
