import Filing.Condition.Leaf
import Filing.CommandLine.Setup
import Filing.Schema.Checking
import Filing.Service

/-!
# Reports

What a run gives: its exit code, what it writes, and the problems that it tells. `Report.run` is the whole
program as a function of its arguments, of the variables of the environment, and of the files and the
input it can read.
-/

namespace Filing.CommandLine

structure Surroundings where
  files : Files
  input : String
  environment : List (String × String)

inductive Failure where
  | setup (fault : SetupFault)
  | unreadable (path : String) (fault : FileFault)
  | notDocuments (format : String)
  | unwritable (path : String) (fault : FileFault)
  | error (e : Error)
  | invalidRules (path : String) (e : Error)
  | unknownPolicy (id : Int)
  | invalidPolicies (problems : List String)

namespace Failure

def message : Failure → String
  | .setup fault => fault.message
  | .unreadable path _ => "Failed to read " ++ path
  | .notDocuments format => "Failed to parse documents as " ++ format
  | .unwritable path _ => "Failed to write " ++ path
  | .error e => e.message
  | .invalidRules path _ => "Invalid rule file " ++ path
  | .unknownPolicy id => "policy " ++ intText id ++ " not found"
  | .invalidPolicies problems => intText problems.length ++ " policies failed validation"

def cause? : Failure → Option String
  | .unreadable _ fault | .unwritable _ fault => some fault.message
  | .notDocuments _ => some "not a list of documents"
  | .invalidRules _ e => some e.message
  | _ => none

def problems : Failure → List String
  | .invalidPolicies problems => problems
  | _ => []

def lines (f : Failure) : List String :=
  f.problems ++ ["Error: " ++ f.message]
    ++ (f.cause?.map fun cause => ["", "Caused by:", "    " ++ cause]).getD []

end Failure

structure Report where
  exit : Nat := 0
  output : String := ""
  problems : List String := []
  written : Option (String × String) := none
  counters : List String := []

namespace Report

def ofFailure (f : Failure) : Report := { exit := 1, problems := f.lines }

def ofRefusal : Refusal → Report
  | .usage => { exit := 2 }
  | .help => {}

def documents (s : Surroundings) (path : Option String) : Except Failure (List Document) := do
  let (text, yaml) ← match path with
    | none => pure (s.input, false)
    | some path =>
      match s.files.read path with
      | .ok text => pure (text, extension? path = some "yaml" || extension? path = some "yml")
      | .error fault => throw (.unreadable path fault)
  let node? := if yaml then Node.ofYamlText? text else Node.ofJsonText? text
  match node?.bind Document.readList? with
  | some documents => return documents
  | none => throw (.notDocuments (if yaml then "YAML" else "JSON"))

def service (setup : Setup) : Service where
  pipeline := ⟨⟨Leaf.evaluate, fun _ _ _ => false⟩, .defaults, Schema.validate, setup.settings⟩
  store := { interval := setup.refreshInterval }

def source (s : Surroundings) (setup : Setup) : Source :=
  .file setup.rulesPath ((s.files.read setup.rulesPath).map (·, Instant.midnight 0))

def snapshot (s : Surroundings) (setup : Setup) : Except Error Snapshot :=
  ((service setup).get (source s setup) 0).1.map Served.snapshot

def classify (s : Surroundings) (setup : Setup) (sequence : Int) (input output : Option String)
    (counters : Bool) : Except Failure Report := do
  let ds ← documents s input
  let (batch, after) := (service setup).classify (source s setup) 0 sequence false
    fun _ => ds.map (·, false)
  match batch with
  | .error e => throw (.error e)
  | .ok (batch, _) =>
    let text := batch.toJson.pretty
    let lines := if counters || setup.counters then after.metrics.counterLines else []
    match output with
    | none => return { output := text ++ "\n", counters := lines }
    | some path =>
      match s.files.writable path with
      | .ok () => return { written := some (path, text), counters := lines }
      | .error fault => throw (.unwritable path fault)

def fingerprint (s : Surroundings) (setup : Setup) : Except Failure Report :=
  match snapshot s setup with
  | .error e => .error (.error e)
  | .ok found =>
    let counts := found.counts.map fun (name, n) => name ++ "=" ++ intText n
    .ok { output := found.fingerprint ++ "\n" ++ joinTexts " " counts ++ "\n" }

/-- The policies whose details their types do not allow, ascending. -/
def policyProblems (s : Snapshot) : List String :=
  s.policies.items.filterMap fun p => do
    let t ← s.policyType? p.typeId
    match p.validate Schema.validate t with
    | .ok () => none
    | .error e => some e.message

def validate (s : Surroundings) (setup : Setup) : Except Failure Report :=
  match snapshot s setup with
  | .error e => .error (.invalidRules setup.rulesPath e)
  | .ok found =>
    match policyProblems found with
    | [] =>
      .ok { output :=
        setup.rulesPath ++ " is valid (fingerprint " ++ found.fingerprint ++ ")\n" }
    | problems => .error (.invalidPolicies problems)

def policies (s : Snapshot) (ids : List Int) : Except Failure (List Policy) :=
  ids.mapM fun id =>
    match s.policy? id with
    | some p => .ok p
    | none => .error (.unknownPolicy id)

def policyLine (p : Policy) : String :=
  intText p.id ++ "\t" ++ p.name ++ "\tpriority=" ++ intText p.priority ++ "\n"

def resolve (s : Surroundings) (setup : Setup) (ids : List Int) : Except Failure Report :=
  match snapshot s setup with
  | .error e => .error (.error e)
  | .ok found => do
    match Policy.resolve (← policies found ids) with
    | .error e => throw (.error e)
    | .ok holding => return { output := joinTexts "" (holding.map policyLine) }

/-- The file of settings: the first that is there. -/
def configFile? (files : Files) (a : Arguments) : Option (String × String) :=
  (configPaths a.config).findSome? fun path => (files.read path).toOption.map (path, ·)

def ofCommand (s : Surroundings) (setup : Setup) : Command → Except Failure Report
  | .classify sequence input output counters => classify s setup sequence input output counters
  | .fingerprint => fingerprint s setup
  | .validate => validate s setup
  | .resolve ids => resolve s setup ids

def run (s : Surroundings) (args : List String) : Report :=
  match Arguments.ofList s.environment args with
  | .error refusal => ofRefusal refusal
  | .ok a =>
    match Setup.load a (configFile? s.files a) s.environment with
    | .error fault => ofFailure (.setup fault)
    | .ok setup =>
      match ofCommand s setup a.command with
      | .ok report => report
      | .error failure => ofFailure failure

end Report

end Filing.CommandLine
