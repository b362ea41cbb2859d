import Filing.Error
import Filing.Json.Value
import Filing.Pattern.Reading

/-!
# Schemas for JSON values

A schema of draft 7 is compiled once: every keyword has to have a value of the right shape, at any depth,
and every pattern has to be one. What is compiled is the list of its keywords in ascending order of
their names; keywords without a meaning here are passed over. Members that a schema names, and all other
members, are looked at together where the schema says something about the others.
-/

namespace Filing

inductive TypeName where
  | array
  | boolean
  | integer
  | null
  | number
  | object
  | string
deriving DecidableEq, Repr

inductive Bound where
  | minimum
  | maximum
  | exclusiveMinimum
  | exclusiveMaximum
deriving DecidableEq, Repr

inductive Counted where
  | characters
  | items
  | members
deriving DecidableEq, Repr

mutual

inductive Schema where
  | always
  | never
  | reference (target : String)
  | keywords (keywords : List Keyword)

inductive Keyword where
  | types (types : List TypeName)
  | enumeration (options : List Json)
  | constant (value : Json)
  | bound (bound : Bound) (limit : Json)
  | multipleOf (divisor : Json)
  | least (counted : Counted) (limit : Nat)
  | most (counted : Counted) (limit : Nat)
  | unique
  | pattern (text : String) (pattern : Pattern)
  | required (names : List String)
  | properties (named : List (String × Schema))
  | patterns (patterns : List (Pattern × Schema))
  /-- Members that are named, those whose names match, and all others. -/
  | members (named : List (String × Schema)) (patterns : List (Pattern × Schema)) (others : Schema)
  /-- No members but those that are named and those whose names match. -/
  | noOthers (named : List (String × Schema)) (patterns : List (Pattern × Schema))
  | noMembers
  | propertyNames (schema : Schema)
  | dependency (name : String) (schema : Schema)
  | items (schema : Schema)
  | tuple (schemas : List Schema) (others : Option Schema)
  | contains (schema : Schema)
  | allOf (schemas : List Schema)
  | anyOf (schemas : List Schema)
  | oneOf (schemas : List Schema)
  | not (source : Json) (schema : Schema)
  | conditional (test : Schema) (positive negative : Schema)

end

instance : Inhabited Schema := ⟨.always⟩

namespace TypeName

def all : List TypeName := [.array, .boolean, .integer, .null, .number, .object, .string]

def name : TypeName → String
  | .array => "array"
  | .boolean => "boolean"
  | .integer => "integer"
  | .null => "null"
  | .number => "number"
  | .object => "object"
  | .string => "string"

def ofName? (name : String) : Option TypeName := all.find? fun t => t.name == name

end TypeName

def Double.isWhole (x : Double) : Bool := x.isFinite && x.units % unitsPerOne == 0

/-- The value of a number in units of 2^-1074. -/
def Json.units? : Json → Option Int
  | .int n => some (n * Double.unitsPerOne)
  | .double x => some x.signedUnits
  | _ => none

mutual

def Json.same : Json → Json → Bool
  | .null, .null => true
  | .bool a, .bool b => a == b
  | .string a, .string b => a == b
  | .array a, .array b => Json.sameItems a b
  | .object a, .object b => Json.sameMembers a b
  | a, b =>
    match a.units?, b.units? with
    | some x, some y => x == y
    | _, _ => false

def Json.sameItems : List Json → List Json → Bool
  | [], [] => true
  | a :: as, b :: bs => Json.same a b && Json.sameItems as bs
  | _, _ => false

def Json.sameMembers : List (String × Json) → List (String × Json) → Bool
  | [], [] => true
  | (k, a) :: as, (l, b) :: bs => k == l && Json.same a b && Json.sameMembers as bs
  | _, _ => false

end

namespace Schema

/-- A count that is not negative, given as a whole number. -/
def count? : Json → Option Nat
  | .int n => if 0 ≤ n then some n.toNat else none
  | .double x => if x.isWhole && 0 ≤ x.signedUnits then some (x.units / Double.unitsPerOne) else none
  | _ => none

def isNumber (json : Json) : Bool := json.units?.isSome

def strings? : Json → Option (List String)
  | .array items => items.mapM fun x => match x with
    | .string s => some s
    | _ => none
  | _ => none

def distinctStrings? (json : Json) : Option (List String) :=
  (strings? json).filter fun names => names.eraseDups.length == names.length

def types? : Json → Option (List TypeName)
  | .string s => (TypeName.ofName? s).map ([·])
  | json => do
    let types ← (← distinctStrings? json).mapM TypeName.ofName?
    if types.isEmpty then none else some types

/-- Escapes of a pattern that mean the letters of ASCII alone here. -/
def plainClasses : List Char → List Char
  | '\\' :: 'd' :: rest => "[0-9]".toList ++ plainClasses rest
  | '\\' :: 'D' :: rest => "[^0-9]".toList ++ plainClasses rest
  | '\\' :: 'w' :: rest => "[A-Za-z0-9_]".toList ++ plainClasses rest
  | '\\' :: 'W' :: rest => "[^A-Za-z0-9_]".toList ++ plainClasses rest
  | '\\' :: c :: rest => '\\' :: c :: plainClasses rest
  | c :: rest => c :: plainClasses rest
  | [] => []

def pattern? (text : String) : Option Pattern :=
  (Pattern.compile (.ofList (plainClasses text.toList))).toOption

def isReference (text : String) : Bool :=
  text.toList.all fun c => 0x20 < c.toNat && !"<>\"\\^|".toList.contains c

/-- A keyword's part: nothing but a check, the keyword itself, or a part of one that several keywords
make together. -/
inductive Part where
  | checked
  | keyword (keyword : Keyword)
  | named (named : List (String × Schema))
  | patterns (patterns : List (Pattern × Schema))
  | others (schema : Schema)
  | tuple (schemas : List Schema)
  | otherItems (schema : Schema)
  | test (schema : Schema)
  | positive (schema : Schema)
  | negative (schema : Schema)
  | target (target : String)
  | several (keywords : List Keyword)

def check (holds : Bool) : Option Part := if holds then some .checked else none

def pick {α : Type} (select : Part → Option α) (parts : List (String × Part)) : Option α :=
  parts.findSome? fun (_, part) => select part

def namedOf (parts : List (String × Part)) : Option (List (String × Schema)) :=
  pick (fun | .named x => some x | _ => none) parts

def patternsOf (parts : List (String × Part)) : Option (List (Pattern × Schema)) :=
  pick (fun | .patterns x => some x | _ => none) parts

/-- What is said of all other members; nothing where they are free. -/
def othersOf (parts : List (String × Part)) : Option Schema :=
  (pick (fun | .others x => some x | _ => none) parts).filter fun | .always => false | _ => true

def membersKeyword (parts : List (String × Part)) : Schema → Keyword
  | .never =>
    match namedOf parts, patternsOf parts with
    | none, none => .noMembers
    | named, patterns => .noOthers (named.getD []) (patterns.getD [])
  | others => .members ((namedOf parts).getD []) ((patternsOf parts).getD []) others

def assemble (parts : List (String × Part)) : Part → List Keyword
  | .checked => []
  | .keyword k => [k]
  | .several ks => ks
  | .named named => if (othersOf parts).isSome then [] else [.properties named]
  | .patterns patterns => if (othersOf parts).isSome then [] else [.patterns patterns]
  | .others .always => []
  | .others others => [membersKeyword parts others]
  | .tuple schemas => [.tuple schemas (pick (fun | .otherItems x => some x | _ => none) parts)]
  | .otherItems _ => []
  | .test test =>
    [.conditional test
      ((pick (fun | .positive x => some x | _ => none) parts).getD .always)
      ((pick (fun | .negative x => some x | _ => none) parts).getD .always)]
  | .positive _ => []
  | .negative _ => []
  | .target _ => []

/-- The schema that parts make. A reference stands for all of them. -/
def ofParts (parts : List (String × Part)) : Schema :=
  match pick (fun | .target x => some x | _ => none) parts with
  | some target => .reference target
  | none => .keywords (parts.flatMap fun (_, part) => assemble parts part)

def simplePart? (name : String) (value : Json) : Option Part :=
  let text (k : String → Option Part) : Option Part :=
    match value with
    | .string s => k s
    | _ => none
  let count (k : Nat → Keyword) : Option Part := (count? value).map fun n => .keyword (k n)
  let bound (b : Bound) : Option Part :=
    if isNumber value then some (.keyword (.bound b value)) else none
  match name with
  | "$id" | "$schema" => text fun s => check (isReference s)
  | "$ref" => text fun s => if isReference s then some (.target s) else none
  | "$comment" | "title" | "description" | "format" | "contentMediaType" | "contentEncoding" =>
    text fun _ => some .checked
  | "readOnly" => check (value matches .bool _)
  | "examples" => check (value matches .array _)
  | "multipleOf" =>
    if (value.units?).any (0 < ·) then some (.keyword (.multipleOf value)) else none
  | "minimum" => bound .minimum
  | "maximum" => bound .maximum
  | "exclusiveMinimum" => bound .exclusiveMinimum
  | "exclusiveMaximum" => bound .exclusiveMaximum
  | "minLength" => count (.least .characters)
  | "maxLength" => count (.most .characters)
  | "minItems" => count (.least .items)
  | "maxItems" => count (.most .items)
  | "minProperties" => count (.least .members)
  | "maxProperties" => count (.most .members)
  | "uniqueItems" =>
    match value with
    | .bool b => some (if b then .keyword .unique else .checked)
    | _ => none
  | "pattern" => text fun s => (pattern? s).map fun p => .keyword (.pattern s p)
  | "required" => (distinctStrings? value).map fun names => .keyword (.required names)
  | "const" => some (.keyword (.constant value))
  | "enum" =>
    match value with
    | .array options => some (.keyword (.enumeration options))
    | _ => none
  | "type" => (types? value).map fun types => .keyword (.types types)
  | _ => some .checked

def nonEmpty (items : List Json) : Option Unit := if items.isEmpty then none else some ()

def isSchemaKeyword (name : String) : Bool :=
  ["items", "additionalItems", "contains", "additionalProperties", "propertyNames", "if", "then",
    "else", "not"].contains name

def isMapKeyword (name : String) : Bool :=
  ["properties", "patternProperties", "definitions", "dependencies"].contains name

def isListKeyword (name : String) : Bool := ["allOf", "anyOf", "oneOf"].contains name

def schemaPart? (name : String) (source : Json) (s : Schema) : Option Part :=
  match name with
  | "items" => some (.keyword (.items s))
  | "additionalItems" => some (.otherItems s)
  | "contains" => some (.keyword (.contains s))
  | "additionalProperties" => some (.others s)
  | "propertyNames" => some (.keyword (.propertyNames s))
  | "if" => some (.test s)
  | "then" => some (.positive s)
  | "else" => some (.negative s)
  | "not" => some (.keyword (.not source s))
  | _ => none

mutual

def compile? : Json → Option Schema
  | .bool true => some .always
  | .bool false => some .never
  | .object members => (compileParts? members).map ofParts
  | _ => none

def compileParts? : List (String × Json) → Option (List (String × Part))
  | [] => some []
  | (name, value) :: rest => do
    return (name, ← compilePart? name value) :: (← compileParts? rest)

def compilePart? (name : String) (value : Json) : Option Part :=
  match value with
  | .array items =>
    match name with
    | "items" => (nonEmpty items).bind fun _ => (compileAll? items).map .tuple
    | "allOf" =>
      (nonEmpty items).bind fun _ => (compileAll? items).map fun ss => .keyword (.allOf ss)
    | "anyOf" =>
      (nonEmpty items).bind fun _ => (compileAll? items).map fun ss => .keyword (.anyOf ss)
    | "oneOf" =>
      (nonEmpty items).bind fun _ => (compileAll? items).map fun ss => .keyword (.oneOf ss)
    | name => if isSchemaKeyword name || isMapKeyword name then none else simplePart? name value
  | .object members =>
    match name with
    | "properties" => (compileMembers? members).map .named
    | "patternProperties" => do
      let compiled ← compileMembers? members
      return .patterns (← compiled.mapM fun (k, s) => (pattern? k).map (·, s))
    | "definitions" => (compileMembers? members).map fun _ => .checked
    | "dependencies" =>
      (compileDependencies? members).map fun ds =>
        .several (ds.map fun (k, s) => .dependency k s)
    | name =>
      if isSchemaKeyword name then
        ((compileParts? members).map ofParts).bind (schemaPart? name value)
      else if isListKeyword name then none
      else simplePart? name value
  | .bool b =>
    if isSchemaKeyword name then schemaPart? name value (if b then .always else .never)
    else if isMapKeyword name || isListKeyword name then none
    else simplePart? name value
  | value =>
    if isSchemaKeyword name || isMapKeyword name || isListKeyword name then none
    else simplePart? name value

def compileAll? : List Json → Option (List Schema)
  | [] => some []
  | x :: xs => do return (← compile? x) :: (← compileAll? xs)

def compileMembers? : List (String × Json) → Option (List (String × Schema))
  | [] => some []
  | (k, x) :: ms => do return (k, ← compile? x) :: (← compileMembers? ms)

/-- Compiles dependencies: a list of names that have to be there, or a schema. -/
def compileDependencies? : List (String × Json) → Option (List (String × Schema))
  | [] => some []
  | (k, x) :: ms => do
    let s ← match x with
      | .array items =>
        (distinctStrings? (.array items)).map fun names => .keywords [.required names]
      | x => compile? x
    return (k, s) :: (← compileDependencies? ms)

end

end Schema

end Filing
