/-!
# Files

The files that can be seen, by their paths, and the directories they are in. A path is looked up by its
parts; a part that is a single dot is passed over.
-/

namespace Filing

inductive FileFault where
  | missing
  | notADirectory
  | isADirectory
deriving DecidableEq, Repr

def FileFault.message : FileFault → String
  | .missing => "No such file or directory (os error 2)"
  | .notADirectory => "Not a directory (os error 20)"
  | .isADirectory => "Is a directory (os error 21)"

def pathParts (path : List Char) : List (List Char) :=
  (path.splitOnP (· = '/')).filter fun part => part ≠ [] ∧ part ≠ ['.']

/-- The last part of a path; none where the path ends in two dots. -/
def fileName? (path : List Char) : Option (List Char) :=
  (pathParts path).getLast?.filter (· ≠ ['.', '.'])

/-- What follows the last dot of a file's name, if something stands before that dot. -/
def extension? (path : String) : Option String := do
  let name := (← fileName? path.toList).reverse
  match name.dropWhile (· ≠ '.') with
  | '.' :: _ :: _ => return .ofList (name.takeWhile (· ≠ '.')).reverse
  | _ => none

/-- Files, each with its path and its text, and directories that need not hold any of them. -/
structure Files where
  entries : List (String × String)
  directories : List String := []

namespace Files

/-- The parts by which a path is looked up, with an empty one before those of a path from the root. -/
def parts? (path : String) : Option (List (List Char)) :=
  match path.toList with
  | [] => none
  | '/' :: cs => some ([] :: pathParts cs)
  | cs => some (pathParts cs)

def textAt? (f : Files) (parts : List (List Char)) : Option String :=
  (f.entries.find? fun (path, _) => parts? path = some parts).map Prod.snd

def isDirectory (f : Files) (parts : List (List Char)) : Bool :=
  parts.isEmpty || f.directories.any (fun path => parts? path = some parts)
    || f.entries.any fun (path, _) =>
      (parts? path).any fun other => parts.isPrefixOf other && parts.length < other.length

def absence (f : Files) (parts : List (List Char)) : FileFault :=
  let inTheWay := (List.range parts.length).any fun n => (f.textAt? (parts.take n)).isSome
  if inTheWay then .notADirectory else .missing

def read (f : Files) (path : String) : Except FileFault String :=
  match parts? path with
  | none => .error .missing
  | some parts =>
    match f.textAt? parts with
    | some text => if path.toList.getLast? = some '/' then .error .notADirectory else .ok text
    | none => .error (if f.isDirectory parts then .isADirectory else f.absence parts)

def writable (f : Files) (path : String) : Except FileFault Unit :=
  match parts? path with
  | none => .error .missing
  | some parts =>
    if f.isDirectory parts then .error .isADirectory
    else if !f.isDirectory parts.dropLast then .error (f.absence parts)
    else if path.toList.getLast? = some '/' then
      .error (if (f.textAt? parts).isSome then .notADirectory else .isADirectory)
    else .ok ()

end Files

end Filing
