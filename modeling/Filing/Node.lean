import Filing.Json.Value

/-!
# Trees read from text

A `Node` is what a text in one of the two data formats holds before it is known what the parts are for.
A scalar of the looser format is kept as its text, because its type depends on who reads it: the same
`12` is a number for a reader of numbers and a text for a reader of names. A part that cannot be read
(nested too deeply, a number out of range) is `unreadable`; that is an error only for a reader that
looks at it, and a member that nobody asks for does no harm.
-/

namespace Filing

inductive Scalar.Style where
  | plain
  | literal
  | quoted
deriving DecidableEq, Repr

structure Scalar where
  tag : Option String
  style : Scalar.Style
  text : String
deriving DecidableEq, Repr

/-- A tree whose parts have no types yet. `tagged` marks a collection with an application's own tag;
`positional` marks a sequence that may stand for a record, its items in the order of the fields. -/
inductive Node where
  | null
  | bool (value : Bool)
  | int (value : Int)
  | double (value : Double)
  | text (value : String)
  | scalar (scalar : Scalar)
  | sequence (tagged positional : Bool) (items : List Node)
  | mapping (tagged : Bool) (members : List (Node × Node))
  | unreadable

instance : Inhabited Node := ⟨.null⟩

namespace Node

mutual

def ofJson : Json → Node
  | .null => .null
  | .bool b => .bool b
  | .int n => .int n
  | .double x => .double x
  | .string s => .text s
  | .array xs => .sequence false true (ofItems xs)
  | .object ms => .mapping false (ofMembers ms)

def ofItems : List Json → List Node
  | [] => []
  | x :: xs => ofJson x :: ofItems xs

def ofMembers : List (String × Json) → List (Node × Node)
  | [] => []
  | (k, x) :: ms => (.text k, ofJson x) :: ofMembers ms

end

end Node

end Filing
