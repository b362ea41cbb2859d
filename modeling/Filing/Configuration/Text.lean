import Filing.Configuration.Reading
import Filing.Error
import Filing.Files
import Filing.Yaml.Reading

/-!
# Texts of configurations

A configuration is written in one of two formats; the name of its file decides which.
-/

namespace Filing

namespace Configuration

def ofYaml (text : String) : Except Error Configuration :=
  match (Node.ofYamlText? text).bind read? with
  | some c => .ok c
  | none => .error (.config .unreadable)

def ofJson (text : String) : Except Error Configuration :=
  match (Node.ofJsonText? text).bind read? with
  | some c => .ok c
  | none => .error (.serialization "not a rule configuration")

def ofFileText (path text : String) : Except Error Configuration :=
  if extension? path = some "json" then ofJson text else ofYaml text

end Configuration

end Filing
