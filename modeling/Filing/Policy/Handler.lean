import Filing.Policy.FieldAction
import Filing.Policy.Resolution

/-!
# Handlers

A handler decides which of the policies of a type hold for a document and applies them to it. It may
stop the application of all further policies. The registry knows the handlers by their bindings, which
policy types name.
-/

namespace Filing

inductive Outcome where
  | goOn
  | stop
deriving DecidableEq, Repr

structure Handler where
  name : String
  resolve : Document → List Policy → Except Error (List Policy)
  /-- Applies a policy that the given sequence led to, and gives the document as that leaves it, also where it fails. -/
  apply : Document → Policy → Int → Document × Except Error Outcome

namespace Handler

/-- A handler whose policies are lists of field actions. All of the details are read before the first
change. -/
def fieldActions (name : String) : Handler where
  name := name
  resolve _ policies := Policy.resolve policies
  apply d p _ :=
    match p.fieldActions with
    | .ok actions => (FieldAction.applyAll d actions, .ok .goOn)
    | .error e => (d, .error e)

def metadata : Handler := fieldActions metadataBinding
def tag : Handler := fieldActions tagBinding

end Handler

abbrev Registry := Index (Prod.fst : String × Handler → String)

namespace Registry

def bind (r : Registry) (binding : String) (h : Handler) : Registry := r.insert (binding, h)

def register (r : Registry) (h : Handler) : Registry := r.bind h.name h

def defaults : Registry := (Registry.register .empty .metadata).register .tag

def handler? (r : Registry) (binding : String) : Option Handler := (r.get? binding).map Prod.snd

def handlerFor (r : Registry) (t : PolicyType) : Except Error Handler :=
  match r.handler? t.handler with
  | some h => .ok h
  | none => .error (.handlerNotFound t.handler)

def bindings (r : Registry) : List String := r.keys

end Registry

end Filing
