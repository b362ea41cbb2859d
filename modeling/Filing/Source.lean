import Filing.Configuration.Text
import Filing.Fingerprint

/-!
# Sources

Where configurations come from. A source is asked to load, with the fingerprint of what is known, and
may answer that nothing has changed; it may also tell the fingerprint of what it holds without loading.
-/

namespace Filing

inductive Load where
  | unchanged
  | loaded (configuration : Configuration) (persisted : Option Instant)

structure Source where
  name : String
  load : Option String → Except Error Load
  /-- The fingerprint of what the source holds, or none where it cannot tell. -/
  currentFingerprint : Except Error (Option String)

namespace Source

def answer (c : Configuration) (persisted : Option Instant) (known : Option String) : Load :=
  if known = some c.fingerprint then .unchanged else .loaded c persisted

def ofHeld (name : String) (held : Except Error (Configuration × Option Instant)) : Source where
  name := name
  load known := held.map fun (c, persisted) => answer c persisted known
  currentFingerprint := held.map fun (c, _) => some c.fingerprint

/-- A configuration in memory, or none for the time being. -/
def fixed (configuration : Option Configuration) : Source :=
  ofHeld "static" <|
    match configuration with
    | some c => .ok (c, none)
    | none => .error (.configurationUnavailable "static configuration source is unavailable")

/-- A file with this text, written at some instant, or none that can be read. -/
def file (path : String) (content : Except FileFault (String × Instant)) : Source :=
  ofHeld ("file:" ++ path) <|
    match content with
    | .ok (text, persisted) => (Configuration.ofFileText path text).map (·, some persisted)
    | .error fault => .error (.io fault.message)

end Source

end Filing
