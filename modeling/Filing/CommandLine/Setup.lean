import Filing.Classification
import Filing.CommandLine.Arguments
import Filing.CommandLine.SettingLines
import Filing.Configuration.Text
import Filing.Text.Lowercase

/-!
# Setup

How a run is set up: by a file, whose format its name decides, then by the variables of the environment,
and last by the arguments. A setting is taken leniently: a text with a number is a number, and one that
says yes or no is a truth value. A setting that is not there keeps its default.
-/

namespace Filing.CommandLine

inductive SetupFault where
  | wrongType (found : Json) (expected key origin : String)
  | notATable (found : Json) (file : String)
  | notATelemetry (found : Json)
  | unknownTieBreak (name : String)
  | notATieBreak
  | unreadable (file : String)
deriving DecidableEq

/-- The plain decimal of a double, without a point where it is a whole number. -/
def plainText (x : Double) : String :=
  if x.isNaN then "NaN"
  else
    let sign := if x.isNegative then ['-'] else []
    if !x.isFinite then .ofList (sign ++ "inf".toList)
    else
      let cs := x.shortest.chars ⟨-400, 400⟩
      let whole := cs.takeWhile (· ≠ '.')
      .ofList (sign ++ if cs = whole ++ ".0".toList then whole else cs)

namespace SetupFault

/-- What kind of value was found; `integer` is what an integer is called. -/
def found (integer : String) : Json → String
  | .null => "unit value"
  | .bool b => "boolean `" ++ (if b then "true" else "false") ++ "`"
  | .int n => integer ++ " `" ++ intText n ++ "`"
  | .double x => "floating point `" ++ plainText x ++ "`"
  | .string s => "string " ++ Text.quoted s
  | .array _ => "sequence"
  | .object _ => "map"

def message : SetupFault → String
  | .wrongType json expected key origin =>
    "invalid type: " ++ found "64-bit integer" json ++ ", expected " ++ expected ++ " for key `"
      ++ key ++ "` in " ++ origin
  | .notATable json file =>
    "invalid type: " ++ found "64-bit integer" json ++ ", expected a map in " ++ file ++ " in "
      ++ file
  | .notATelemetry json =>
    "invalid type: " ++ found "integer" json ++ ", expected struct TelemetryConfig"
  | .unknownTieBreak name =>
    "enum DefaultCollectionTieBreak does not have variant constructor " ++ name
  | .notATieBreak =>
    "value of enum DefaultCollectionTieBreak should be represented by either string or table with "
      ++ "exactly one key"
  | .unreadable file => "not a table of settings in " ++ file

end SetupFault

structure Setting where
  key : String
  origin : String
  value : Json

namespace Setting

def fail {α : Type} (s : Setting) (expected : String) : Except SetupFault α :=
  .error (.wrongType s.value expected s.key s.origin)

/-- The nearest integer of a double that is not negative, a half away from zero, up to the greatest
number of 64 bits. -/
def roundedCount (x : Double) : Nat :=
  if x.isNaN || x.isNegative then 0
  else min (Nat.pow 2 64 - 1) ((x.units + Double.unitsPerOne / 2) / Double.unitsPerOne)

def count (s : Setting) : Except SetupFault Nat :=
  match s.value with
  | .int n => if 0 ≤ n then .ok n.toNat else s.fail "an unsigned 64 bit or less integer"
  | .double x => .ok (roundedCount x)
  | .bool b => .ok (if b then 1 else 0)
  | .string text =>
    let word := String.ofList (Text.lower text.toList)
    if ["true", "on", "yes"].contains word then .ok 1
    else if ["false", "off", "no"].contains word then .ok 0
    else
      match count? text with
      | some n => .ok n
      | none => s.fail "an integer"
  | _ => s.fail "an integer"

def count? (s : Setting) : Except SetupFault (Option Nat) :=
  if s.value = .null then .ok none else s.count.map some

def text (s : Setting) : Except SetupFault String :=
  match s.value with
  | .string text => .ok text
  | .bool b => .ok (if b then "true" else "false")
  | .int n => .ok (intText n)
  | .double x => .ok (plainText x)
  | _ => s.fail "a string"

def truth (s : Setting) : Except SetupFault Bool :=
  match s.value with
  | .bool b => .ok b
  | .int n => .ok (n ≠ 0)
  | .double x => .ok (x.isNaN || x.units ≠ 0)
  | .string text =>
    let word := String.ofList (Text.lower text.toList)
    if ["1", "true", "on", "yes"].contains word then .ok true
    else if ["0", "false", "off", "no"].contains word then .ok false
    else Setting.fail { s with value := .string word } "a boolean"
  | _ => s.fail "a boolean"

/-- A tie-break: its name in any case, or a table with its name as the only key. -/
def tieBreak (s : Setting) : Except SetupFault TieBreak :=
  let ofName (name : String) : Except SetupFault TieBreak :=
    let word := String.ofList (Text.lower name.toList)
    if word = "lowest_id" then .ok .lowestId
    else if word = "highest_id" then .ok .highestId
    else if word = "none" then .ok .none
    else .error (.unknownTieBreak name)
  match s.value with
  | .string name => ofName name
  | .object [(name, _)] => ofName name
  | _ => .error .notATieBreak

/-- Whether counters are written: the only setting of the part for telemetry. -/
def telemetry (s : Setting) : Except SetupFault Bool :=
  let inner (value : Json) : Setting := ⟨s.key ++ ".prometheus", s.origin, value⟩
  match s.value with
  | .object members =>
    match members.lookup "prometheus" with
    | some value => (inner value).truth
    | none => .ok false
  | .array (value :: _) => (inner value).truth
  | .array [] => .ok false
  | value => .error (.notATelemetry value)

end Setting

def variableValue (text : String) : Json :=
  let word := String.ofList (Text.lower text.toList)
  if word = "true" then .bool true
  else if word = "false" then .bool false
  else
    match id? text with
    | some n => .int n
    | none =>
      match Double.ofChars? text.toList with
      | some x => .double x
      | none => .string text

/-- The settings that the environment gives: variables whose names begin with that of the program, in
any case. -/
def variableSettings (environment : List (String × String)) : List Setting :=
  environment.filterMap fun (name, text) =>
    let start := "docpolicy_".toList
    let name := Text.lower name.toList
    if start.isPrefixOf name then
      some ⟨.ofList (name.drop start.length), "the environment", variableValue text⟩
    else none

mutual

def lowerKeys : Json → Json
  | .object members => .ofMembers (lowerMembers members)
  | value => value

def lowerMembers : List (String × Json) → List (String × Json)
  | [] => []
  | (key, value) :: rest =>
    (String.ofList (Text.lower key.toList), lowerKeys value) :: lowerMembers rest

end

def memberSettings (path : String) (members : List (String × Json)) : List Setting :=
  (Index.ofList (lowerMembers members) : Index Prod.fst).items.map
    fun (key, value) => ⟨key, path, value⟩

def lineSettings (path : String) (members : Option (List (String × Json))) :
    Except SetupFault (List Setting) :=
  match members with
  | some members => .ok (memberSettings path members)
  | none => .error (.unreadable path)

def treeSettings (path : String) : Option Node → Except SetupFault (List Setting)
  | none => .error (.unreadable path)
  | some (.scalar x) =>
    if x.isBlank then .ok [] else .error (.notATable ((Node.json? (.scalar x)).getD .null) path)
  | some node =>
    match node.json? with
    | none => .error (.unreadable path)
    | some (.object members) => .ok (memberSettings path members)
    | some value => .error (.notATable value path)

/-- The settings that the text of a file gives; a file of no known format gives none. -/
def fileSettings (path text : String) : Except SetupFault (List Setting) :=
  match extension? path with
  | some "json" | some "json5" => treeSettings path (Node.ofJsonText? text)
  | some "yaml" | some "yml" => treeSettings path (Node.ofYamlText? text)
  | some "toml" => lineSettings path (SettingLine.settingsOfText? SettingLine.ofTyped? text)
  | some "ini" => lineSettings path (SettingLine.settingsOfText? SettingLine.ofUntyped? text)
  | _ => .ok []

def configPaths (path : String) : List String :=
  path :: [".toml", ".json", ".yaml", ".yml", ".ini", ".json5"].map (path ++ ·)

structure Setup where
  rulesPath : String
  concurrency : Option Nat
  timeout : Option Nat
  refreshInterval : Option Nat
  tieBreak : TieBreak
  referenceLimit : Nat
  counters : Bool

namespace Setup

def defaultRules : String := "rules.yaml"

def take {α : Type} (settings : List Setting) (key : String)
    (read : Setting → Except SetupFault α) (default : α) : Except SetupFault α :=
  match settings.find? (·.key = key) with
  | some s => read s
  | none => .ok default

def ofSettings (settings : List Setting) : Except SetupFault Setup := do
  return {
    rulesPath := ← take settings "rules_path" Setting.text defaultRules
    concurrency := ← take settings "concurrency" Setting.count? none
    timeout := ← take settings "document_timeout_ms" Setting.count? none
    refreshInterval := ← take settings "refresh_interval_ms" Setting.count? none
    tieBreak := ← take settings "tie_break" Setting.tieBreak .lowestId
    referenceLimit := ← take settings "max_reference_depth" Setting.count 32
    counters := ← take settings "telemetry.prometheus" Setting.truth
      (← take settings "telemetry" Setting.telemetry false) }

def withArguments (s : Setup) (a : Arguments) : Setup :=
  { s with
    rulesPath := a.rules.getD s.rulesPath
    concurrency := a.concurrency <|> s.concurrency
    timeout := a.timeout <|> s.timeout
    tieBreak := a.tieBreak.getD s.tieBreak }

def load (a : Arguments) (file : Option (String × String)) (environment : List (String × String)) :
    Except SetupFault Setup := do
  let settings ← match file with
    | some (path, text) => fileSettings path text
    | none => pure []
  let setup ← ofSettings (variableSettings environment ++ settings)
  return setup.withArguments a

def settings (s : Setup) : Settings :=
  ⟨s.tieBreak, s.referenceLimit, s.timeout.isSome⟩

end Setup

end Filing.CommandLine
