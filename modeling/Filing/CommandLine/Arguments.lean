import Filing.Sequence.Walk

/-!
# Arguments

What a run is asked to do. A command has options of its own; the general options may stand before or
after the command, and after it they count. Every option may be given once at each place. An option is
written in full or with its letter, and its value follows as the next argument or behind an equals sign.
-/

namespace Filing.CommandLine

structure Switch where
  name : String
  letter : Option Char
  takesValue : Bool

def generalSwitches : List Switch :=
  [⟨"config", some 'c', true⟩, ⟨"rules", some 'r', true⟩, ⟨"concurrency", none, true⟩,
    ⟨"timeout-ms", none, true⟩, ⟨"tie-break", none, true⟩, ⟨"verbose", some 'v', false⟩,
    ⟨"json-logs", none, false⟩]

def commandSwitches : List (String × List Switch) :=
  [("classify", [⟨"sequence", some 's', true⟩, ⟨"input", some 'i', true⟩,
      ⟨"output", some 'o', true⟩, ⟨"metrics", none, false⟩]),
    ("fingerprint", []), ("validate", []), ("resolve", [])]

inductive Refusal where
  | usage
  | help
deriving DecidableEq

/-- The arguments of one place: options with their values, and what is no option. -/
structure Place where
  options : List (String × String) := []
  operands : List String := []

namespace Place

def value? (p : Place) (name : String) : Option String := p.options.lookup name

def take (p : Place) (name value : String) : Except Refusal Place :=
  if p.options.any (·.1 = name) then .error .usage
  else .ok { p with options := (name, value) :: p.options }

end Place

/-- An argument that can be the value of an option before it. -/
def isPlainArgument (arg : String) : Bool :=
  match arg.toList with
  | '-' :: _ :: _ => false
  | _ => true

def takeLong (switches : List Switch) (p : Place) (name : List Char) (value : Option String)
    (rest : List String) : Except Refusal (Place × List String) :=
  match switches.find? (·.name.toList = name) with
  | none => .error (if name = "help".toList && value.isNone then .help else .usage)
  | some switch =>
    match switch.takesValue, value, rest with
    | false, none, _ => (p.take switch.name "").map (·, rest)
    | false, some _, _ => .error .usage
    | true, some value, _ => (p.take switch.name value).map (·, rest)
    | true, none, value :: rest =>
      if isPlainArgument value then (p.take switch.name value).map (·, rest) else .error .usage
    | true, none, [] => .error .usage

/-- Takes options that are written as letters; what follows the letter of an option with a value is its
value. -/
def takeLetters (switches : List Switch) (p : Place) :
    List Char → List String → Except Refusal (Place × List String)
  | [], rest => .ok (p, rest)
  | c :: cs, rest =>
    match switches.find? (·.letter = some c) with
    | none => .error (if c = 'h' then .help else .usage)
    | some switch =>
      if switch.takesValue then
        let value := match cs with
          | [] => none
          | '=' :: cs => some (String.ofList cs)
          | cs => some (.ofList cs)
        takeLong switches p switch.name.toList value rest
      else do
        let p ← p.take switch.name ""
        takeLetters switches p cs rest

/-- Takes the arguments of one place; `stop` tells which argument ends it. -/
def takePlace (switches : List Switch) (stop : String → Bool) :
    Nat → Place → List String → Except Refusal (Place × List String)
  | 0, _, _ => .error .usage
  | _ + 1, p, [] => .ok (p, [])
  | fuel + 1, p, arg :: rest =>
    match arg.toList with
    | ['-', '-'] => .ok ({ p with operands := p.operands ++ rest }, [])
    | '-' :: '-' :: cs => do
      let value := match cs.dropWhile (· ≠ '=') with
        | _ :: value => some (String.ofList value)
        | [] => none
      let (p, rest) ← takeLong switches p (cs.takeWhile (· ≠ '=')) value rest
      takePlace switches stop fuel p rest
    | '-' :: c :: cs => do
      let (p, rest) ← takeLetters switches p (c :: cs) rest
      takePlace switches stop fuel p rest
    | _ =>
      if stop arg then .ok (p, arg :: rest)
      else takePlace switches stop fuel { p with operands := p.operands ++ [arg] } rest

def int? (arg : String) : Option Int :=
  let (negative, ds) := Double.splitSign arg.toList
  if ds.isEmpty || !ds.all Double.isDigit then none
  else
    let n : Int := Double.natOfDigits ds
    some (if negative then -n else n)

def id? (arg : String) : Option Int := (int? arg).filter (isSigned 64)

def count? (arg : String) : Option Nat :=
  if arg.toList.head? = some '-' then none
  else ((int? arg).filter (isUnsigned 64)).map Int.toNat

def path? (arg : String) : Option String := if arg.isEmpty then none else some arg

def tieBreak? (arg : String) : Option TieBreak :=
  if arg = "lowest_id" || arg = "lowest" then some .lowestId
  else if arg = "highest_id" || arg = "highest" then some .highestId
  else if arg = "none" then some .none
  else none

/-- The value of an option, if it is given; refused where it is not of the right form. -/
def optionValue {α : Type} (read : String → Option α) (value : Option String) :
    Except Refusal (Option α) :=
  match value with
  | none => .ok none
  | some value =>
    match read value with
    | some x => .ok (some x)
    | none => .error .usage

inductive Command where
  | classify (sequence : Int) (input output : Option String) (counters : Bool)
  | fingerprint
  | validate
  | resolve (policies : List Int)
deriving DecidableEq

structure Arguments where
  command : Command
  config : String
  rules : Option String
  concurrency : Option Nat
  timeout : Option Nat
  tieBreak : Option TieBreak

namespace Command

def ofPlace (name : String) (p : Place) : Except Refusal Command := do
  if name = "resolve" then
    match p.operands.mapM id? with
    | some (id :: ids) => return .resolve (id :: ids)
    | _ => throw .usage
  else if !p.operands.isEmpty then throw .usage
  else if name = "classify" then
    match ← optionValue id? (p.value? "sequence") with
    | none => throw .usage
    | some sequence =>
      let input ← optionValue path? (p.value? "input")
      let output ← optionValue path? (p.value? "output")
      return .classify sequence input output (p.value? "metrics").isSome
  else if name = "validate" then return .validate
  else return .fingerprint

end Command

namespace Arguments

def defaultConfig : String := "docpolicy.yaml"

def rulesVariable : String := "DOCPOLICY_RULES"

/-- Reads the arguments of a run. Options after the command count before those in front of it, and both
before the variables of the environment. -/
def ofList (environment : List (String × String)) (args : List String) :
    Except Refusal Arguments := do
  let (general, rest) ← takePlace generalSwitches (fun _ => true) (args.length + 1) {} args
  match rest with
  | [] => throw .usage
  | name :: rest =>
    match commandSwitches.lookup name with
    | none => throw (if name = "help" then Refusal.help else .usage)
    | some own =>
      let (p, _) ← takePlace (own ++ generalSwitches) (fun _ => false) (rest.length + 1) {} rest
      let option {α : Type} (read : String → Option α) (name : String) :
          Except Refusal (Option α) := do
        let before ← optionValue read (general.value? name)
        let after ← optionValue read (p.value? name)
        return after <|> before
      let rules ← option path? "rules"
      let fallback ← optionValue path? (environment.lookup rulesVariable)
      return {
        command := ← Command.ofPlace name p
        config := (← option path? "config").getD defaultConfig
        rules := rules <|> fallback
        concurrency := ← option count? "concurrency"
        timeout := ← option count? "timeout-ms"
        tieBreak := ← option tieBreak? "tie-break" }

end Arguments

end Filing.CommandLine
