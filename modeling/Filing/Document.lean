import Filing.Node.Reading

/-!
# Documents

A document has a reference, chosen by the caller, and fields; a field has a list of values in order. A
field that is not there and a field without values read the same, but only the second is written.
-/

namespace Filing

abbrev Fields := Index (Prod.fst : String × List String → String)

structure Document where
  reference : String
  fields : Fields
deriving DecidableEq

namespace Document

def new (reference : String) : Document := ⟨reference, .empty⟩

instance : Inhabited Document := ⟨new ""⟩

def values (d : Document) (name : String) : List String :=
  match d.fields.get? name with
  | some (_, vs) => vs
  | none => []

def hasValue (d : Document) (name : String) : Bool := !(d.values name).isEmpty

def setField (d : Document) (name value : String) : Document :=
  { d with fields := d.fields.insert (name, [value]) }

def addValue (d : Document) (name value : String) : Document :=
  { d with fields := d.fields.insert (name, d.values name ++ [value]) }

def removeField (d : Document) (name : String) : Document :=
  { d with fields := d.fields.erase name }

/-- The values of a field: one text, or a list of them. Either has to be written as texts. -/
def readValues? (node : Node) : Option (List String) := do
  match ← node.settle with
  | .text s => return [s]
  | .sequence _ _ xs => xs.mapM Node.text?
  | _ => none

/-- The fields of a document; of two fields with one name the last is kept. -/
def readFields? (node : Node) : Option Fields := do
  let members ← (← node.members?).mapM fun (name, x) => (readValues? x).map (name, ·)
  return .ofList members

def read? (node : Node) : Option Document := do
  match ← node.fields? ["reference", "fields"] with
  | [reference, fields] =>
    return { reference := ← Node.withDefault Node.text? "" reference
             fields := ← Node.withDefault readFields? .empty fields }
  | _ => none

def readList? (node : Node) : Option (List Document) := node.list? read?

def fieldsJson (fields : Fields) : Json :=
  .object (fields.items.map fun (name, vs) => (name, .strings vs))

def toJson (d : Document) : Json :=
  .object [("reference", .string d.reference), ("fields", fieldsJson d.fields)]

end Document

end Filing
