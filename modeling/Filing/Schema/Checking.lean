import Filing.Json.Text
import Filing.Schema

/-!
# Checking values against schemas

`Schema.errors` lists what is wrong with a value, keyword by keyword, each error with the place in the
value. A reference leads to a part of the whole schema; a chain of references that comes back to where
it was on the same value is cut off.

A schema is compiled once and kept under its text, a schema that does not compile as the message about it. What
compiles schemas and checks values against them is a parameter; `SchemaLibrary.builtIn` is the one in use.
-/

namespace Filing

inductive Step where
  | member (name : String)
  | item (index : Nat)
deriving DecidableEq, Repr

namespace Step

def pointer (path : List Step) : String :=
  .ofList <| path.flatMap fun
    | .member name =>
      '/' :: name.toList.flatMap fun c =>
        if c = '~' then ['~', '0'] else if c = '/' then ['~', '1'] else [c]
    | .item index => '/' :: Double.digitChars index

end Step

mutual

def Json.depth : Json → Nat
  | .array xs => depthItems xs + 1
  | .object ms => depthMembers ms + 1
  | _ => 1

def Json.depthItems : List Json → Nat
  | [] => 0
  | x :: xs => max (Json.depth x) (Json.depthItems xs)

def Json.depthMembers : List (String × Json) → Nat
  | [] => 0
  | (_, x) :: ms => max (Json.depth x) (Json.depthMembers ms)

end

mutual

def Json.count : Json → Nat
  | .array xs => countItems xs + 1
  | .object ms => countMembers ms + 1
  | _ => 1

def Json.countItems : List Json → Nat
  | [] => 0
  | x :: xs => Json.count x + Json.countItems xs

def Json.countMembers : List (String × Json) → Nat
  | [] => 0
  | (_, x) :: ms => Json.count x + Json.countMembers ms

end

structure SchemaError where
  text : String
  path : List Step
deriving DecidableEq, Repr

namespace SchemaError

def message (e : SchemaError) : String := e.text ++ " at '" ++ Step.pointer e.path ++ "'"

end SchemaError

namespace TypeName

def admits : TypeName → Json → Bool
  | .array, .array _ => true
  | .boolean, .bool _ => true
  | .integer, .int _ => true
  | .integer, .double x => x.isWhole
  | .null, .null => true
  | .number, .int _ => true
  | .number, .double _ => true
  | .object, .object _ => true
  | .string, .string _ => true
  | _, _ => false

end TypeName

namespace Bound

def admits (b : Bound) (limit value : Json) : Bool :=
  match value.units?, limit.units? with
  | some v, some l =>
    match b with
    | .minimum => l ≤ v
    | .maximum => v ≤ l
    | .exclusiveMinimum => l < v
    | .exclusiveMaximum => v < l
  | _, _ => true

def relation : Bound → String
  | .minimum => " is less than the minimum of "
  | .maximum => " is greater than the maximum of "
  | .exclusiveMinimum => " is less than or equal to the minimum of "
  | .exclusiveMaximum => " is greater than or equal to the maximum of "

end Bound

namespace Counted

def of? : Counted → Json → Option Nat
  | .characters, .string s => some s.length
  | .items, .array xs => some xs.length
  | .members, .object ms => some ms.length
  | _, _ => none

def words (counted : Counted) (few : Bool) (n : Nat) : String :=
  let number := intText n
  let plural := if n = 1 then "" else "s"
  match counted with
  | .characters =>
    (if few then " is shorter than " else " is longer than ") ++ number ++ " character" ++ plural
  | .items => (if few then " has less than " else " has more than ") ++ number ++ " item" ++ plural
  | .members =>
    (if few then " has less than " else " has more than ") ++ number
      ++ (if n = 1 then " property" else " properties")

end Counted

/-- Equality with a constant: numbers that a double does not tell apart are equal. -/
def Json.isConstant (constant value : Json) : Bool :=
  let double? : Json → Option Int
    | .int n => some (Double.ofInt n).signedUnits
    | .double x => some x.signedUnits
    | _ => none
  match double? constant, double? value with
  | some a, some b => (a - b).natAbs < Nat.pow 2 1022
  | _, _ => constant.same value

def Json.allDistinct : List Json → Bool
  | [] => true
  | x :: xs => !(xs.any fun y => x.same y) && Json.allDistinct xs

namespace Schema

def pointerParts (pointer : List Char) : List String :=
  let rec unescape : List Char → List Char
    | '~' :: '0' :: rest => '~' :: unescape rest
    | '~' :: '1' :: rest => '/' :: unescape rest
    | c :: rest => c :: unescape rest
    | [] => []
  let rec split : List Char → List Char → List (List Char)
    | part, [] => [part.reverse]
    | part, '/' :: rest => part.reverse :: split [] rest
    | part, c :: rest => split (c :: part) rest
  match pointer with
  | '/' :: rest => (split [] rest).map fun part => .ofList (unescape part)
  | _ => []

def follow? (value : Json) : List String → Option Json
  | [] => some value
  | part :: rest =>
    match value with
    | .object ms => (ms.lookup part).bind (follow? · rest)
    | .array xs =>
      if part.isEmpty || !part.toList.all Double.isDigit then none
      else (xs[Double.natOfDigits part.toList]?).bind (follow? · rest)
    | _ => none

def target? (root : Json) (reference : String) : Option Schema :=
  match reference.toList with
  | [] => compile? root
  | '#' :: pointer =>
    match pointer with
    | [] => compile? root
    | '/' :: _ => (follow? root (pointerParts pointer)).bind compile?
    | _ => none
  | _ => none

def membersOf : Json → List (String × Json)
  | .object ms => ms
  | _ => []

def itemsOf : Json → List Json
  | .array xs => xs
  | _ => []

def inQuotes (names : List String) : String := joinTexts ", " (names.map fun n => "'" ++ n ++ "'")

def unexpected (path : List Step) (names : List String) : List SchemaError :=
  if names.isEmpty then []
  else
    [⟨"Additional properties are not allowed (" ++ inQuotes names
      ++ (if names.length = 1 then " was" else " were") ++ " unexpected)", path⟩]

mutual

def errorsAt (root : Json) (fuel : Nat) (path : List Step) (value : Json) (schema : Schema) :
    List SchemaError :=
  match fuel with
  | 0 => []
  | fuel + 1 =>
    match schema with
    | .always => []
    | .never => [⟨"False schema does not allow " ++ value.text, path⟩]
    | .reference target =>
      match target? root target with
      | some found => errorsAt root fuel path value found
      | none => [⟨"Invalid reference: " ++ target, path⟩]
    | .keywords ks => ks.flatMap (keywordErrors root fuel path value)

def keywordErrors (root : Json) (fuel : Nat) (path : List Step) (value : Json)
    (keyword : Keyword) : List SchemaError :=
  let demand (holds : Bool) (text : String) : List SchemaError :=
    if holds then [] else [⟨text, path⟩]
  match fuel with
  | 0 => []
  | fuel + 1 =>
    let member (name : String) (x : Json) (s : Schema) : List SchemaError :=
      errorsAt root fuel (path ++ [Step.member name]) x s
    let valid (s : Schema) : Bool := (errorsAt root fuel path value s).isEmpty
    let matching (patterns : List (Pattern × Schema)) (name : String) : List Schema :=
      (patterns.filter fun (p, _) => p.isMatch name.toList).map Prod.snd
    match keyword with
    | .types [t] =>
      demand (t.admits value) (value.text ++ " is not of type \"" ++ t.name ++ "\"")
    | .types ts =>
      demand (ts.any (·.admits value))
        (value.text ++ " is not of types "
          ++ joinTexts ", " ((TypeName.all.filter ts.contains).map fun t => "\"" ++ t.name ++ "\""))
    | .enumeration options =>
      demand (options.any (·.same value))
        (value.text ++ " is not one of " ++ (Json.array options).text)
    | .constant c => demand (c.isConstant value) (c.text ++ " was expected")
    | .bound b limit =>
      demand (b.admits limit value) (value.text ++ b.relation ++ limit.text)
    | .multipleOf divisor =>
      demand
        (match value.units?, divisor.units? with
          | some v, some d => v % d == 0
          | _, _ => true)
        (value.text ++ " is not a multiple of " ++ divisor.text)
    | .least counted limit =>
      demand ((counted.of? value).all (limit ≤ ·)) (value.text ++ counted.words true limit)
    | .most counted limit =>
      demand ((counted.of? value).all (· ≤ limit)) (value.text ++ counted.words false limit)
    | .unique =>
      demand (Json.allDistinct (itemsOf value)) (value.text ++ " has non-unique elements")
    | .pattern text p =>
      match value with
      | .string s => demand (p.isMatch s.toList) (value.text ++ " does not match \"" ++ text ++ "\"")
      | _ => []
    | .required names =>
      match value with
      | .object ms =>
        (names.filter fun name => !(ms.any fun m => m.1 == name)).map fun name =>
          ⟨(Json.string name).text ++ " is a required property", path⟩
      | _ => []
    | .properties named =>
      named.flatMap fun (name, s) =>
        match (membersOf value).lookup name with
        | some x => member name x s
        | none => []
    | .patterns patterns =>
      patterns.flatMap fun (p, s) =>
        ((membersOf value).filter fun (name, _) => p.isMatch name.toList).flatMap
          fun (name, x) => member name x s
    | .members named patterns others =>
      (membersOf value).flatMap fun (name, x) =>
        let found := (named.lookup name).toList ++ matching patterns name
        (if found.isEmpty then [others] else found).flatMap (member name x)
    | .noOthers named patterns =>
      let schemasOf (name : String) := (named.lookup name).toList ++ matching patterns name
      (membersOf value).flatMap (fun (name, x) => (schemasOf name).flatMap (member name x))
        ++ unexpected path
          (((membersOf value).map Prod.fst).filter fun name => (schemasOf name).isEmpty)
    | .noMembers =>
      match membersOf value with
      | (_, x) :: _ => [⟨"False schema does not allow " ++ x.text, path⟩]
      | [] => []
    | .propertyNames s =>
      (membersOf value).flatMap fun (name, _) => errorsAt root fuel path (.string name) s
    | .dependency name s =>
      if (membersOf value).any fun m => m.1 == name then errorsAt root fuel path value s else []
    | .items s =>
      (itemsOf value).zipIdx.flatMap fun (x, i) => errorsAt root fuel (path ++ [Step.item i]) x s
    | .tuple schemas others =>
      (itemsOf value).zipIdx.flatMap fun (x, i) =>
        match schemas[i]? with
        | some s => errorsAt root fuel (path ++ [Step.item i]) x s
        | none =>
          match others with
          | some s => errorsAt root fuel (path ++ [Step.item i]) x s
          | none => []
    | .contains s =>
      match value with
      | .array xs =>
        demand (xs.any fun x => (errorsAt root fuel path x s).isEmpty)
          ("None of " ++ value.text ++ " are valid under the given schema")
      | _ => []
    | .allOf schemas => schemas.flatMap (errorsAt root fuel path value)
    | .anyOf schemas =>
      demand (schemas.any valid)
        (value.text ++ " is not valid under any of the schemas listed in the 'anyOf' keyword")
    | .oneOf schemas =>
      match schemas.countP valid with
      | 0 =>
        [⟨value.text ++ " is not valid under any of the schemas listed in the 'oneOf' keyword",
          path⟩]
      | 1 => []
      | _ =>
        [⟨value.text
          ++ " is valid under more than one of the schemas listed in the 'oneOf' keyword", path⟩]
    | .not source s => demand (!valid s) (source.text ++ " is not allowed for " ++ value.text)
    | .conditional test positive negative =>
      errorsAt root fuel path value (if valid test then positive else negative)

end

/-- A bound for the length of all chains of schemas and keywords on a value. -/
def fuelFor (root value : Json) : Nat := 2 * (root.count + 1) * (value.depth + 1)

def errors (root : Json) (schema : Schema) (value : Json) : List String :=
  (schema.errorsAt root (fuelFor root value) [] value).map SchemaError.message

def brokenMessage : String := "invalid policy type schema: not a schema"

def validate (details schema : Json) : List String :=
  match compile? schema with
  | some compiled => errors schema compiled details
  | none => [brokenMessage]

end Schema

/-- What makes schemas ready for use. -/
structure SchemaLibrary (σ : Type) where
  compile : Json → Except String σ
  errors : σ → Json → List String

namespace SchemaLibrary

/-- The schemas of this library, each with the value that it was compiled from. -/
def builtIn : SchemaLibrary (Json × Schema) where
  compile schema :=
    match Schema.compile? schema with
    | some compiled => .ok (schema, compiled)
    | none => .error "not a schema"
  errors compiled details := compiled.2.errors compiled.1 details

variable {σ : Type}

/-- What is kept of a schema: it is ready, or there is a message about it. -/
def entry (library : SchemaLibrary σ) (schema : Json) : Except String σ :=
  (library.compile schema).mapError fun fault => "invalid policy type schema: " ++ fault

def check (library : SchemaLibrary σ) (details : Json) : Except String σ → List String
  | .ok compiled => library.errors compiled details
  | .error message => [message]

end SchemaLibrary

abbrev SchemaCacheOf (σ : Type) := Index (Prod.fst : String × Except String σ → String)

namespace SchemaCacheOf
variable {σ : Type}

def compile (library : SchemaLibrary σ) (cache : SchemaCacheOf σ) (schema : Json) :
    Except String σ × SchemaCacheOf σ :=
  match cache.get? schema.text with
  | some (_, entry) => (entry, cache)
  | none =>
    let entry := library.entry schema
    (entry, cache.insert (schema.text, entry))

def validate (library : SchemaLibrary σ) (cache : SchemaCacheOf σ) (details schema : Json) :
    List String × SchemaCacheOf σ :=
  let (entry, cache) := compile library cache schema
  (library.check details entry, cache)

end SchemaCacheOf

abbrev SchemaCache := SchemaCacheOf (Json × Schema)

def SchemaCache.validate (cache : SchemaCache) (details schema : Json) : List String × SchemaCache :=
  SchemaCacheOf.validate .builtIn cache details schema

end Filing
