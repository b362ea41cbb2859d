import Filing.CommandLine.Report

/-!
# The program

Reads the files and the variables that a run needs, and writes its report.
-/

namespace Filing.CommandLine

def variableNames : List String :=
  ["DOCPOLICY_RULES", "DOCPOLICY_RULES_PATH", "DOCPOLICY_CONCURRENCY",
    "DOCPOLICY_DOCUMENT_TIMEOUT_MS", "DOCPOLICY_REFRESH_INTERVAL_MS", "DOCPOLICY_TIE_BREAK",
    "DOCPOLICY_MAX_REFERENCE_DEPTH", "DOCPOLICY_TELEMETRY", "DOCPOLICY_TELEMETRY.PROMETHEUS"]

def readFile? (path : String) : IO (Option (String × String)) := do
  try
    let text ← IO.FS.readFile path
    return some (path, text)
  catch _ => return none

def readFiles (paths : List String) : IO (List (String × String)) := do
  return (← paths.mapM readFile?).filterMap id

def neededPaths (a : Arguments) (setup : Setup) : List String :=
  match a.command with
  | .classify _ (some input) _ _ => [setup.rulesPath, input]
  | _ => [setup.rulesPath]

def pathsToRead (s : Surroundings) (a : Arguments) : List String :=
  match Setup.load a (Report.configFile? s.files a) s.environment with
  | .ok setup => neededPaths a setup
  | .error _ => []

def isDirectory (path : String) : IO Bool := do
  try
    (← IO.FS.realPath path).isDir
  catch _ => return false

def parentPath (path : String) : String :=
  let above := path.toList.reverse.dropWhile (· ≠ '/')
  if above.isEmpty then "." else .ofList above.reverse

def directoriesOf (a : Arguments) : IO (List String) :=
  match a.command with
  | .classify _ _ (some output) _ => [output, parentPath output].filterM isDirectory
  | _ => return []

def readsInput (a : Arguments) : Bool :=
  match a.command with
  | .classify _ none _ _ => true
  | _ => false

def look (args : List String) : IO Surroundings := do
  let environment ← variableNames.filterMapM fun name => do
    return (← IO.getEnv name).map (name, ·)
  match Arguments.ofList environment args with
  | .error _ => return ⟨⟨[], []⟩, "", environment⟩
  | .ok a =>
    let settings ← readFiles (configPaths a.config)
    let files ← readFiles (pathsToRead ⟨⟨settings, []⟩, "", environment⟩ a)
    let directories ← directoriesOf a
    let input ← if readsInput a then (← IO.getStdin).readToEnd else pure ""
    return ⟨⟨settings ++ files, directories⟩, input, environment⟩

def write (report : Report) : IO UInt32 := do
  match report.written with
  | some (path, text) => IO.FS.writeFile path text
  | none => pure ()
  IO.print report.output
  for line in report.problems ++ report.counters do
    IO.eprintln line
  return .ofNat report.exit

end Filing.CommandLine

def main (args : List String) : IO UInt32 := do
  Filing.CommandLine.write (Filing.CommandLine.Report.run (← Filing.CommandLine.look args) args)
