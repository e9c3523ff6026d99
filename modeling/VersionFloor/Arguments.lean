import VersionFloor.Number.Decimal
import VersionFloor.Output

set_option autoImplicit false

namespace VersionFloor.Arguments

/-- Why arguments do not start a command. -/
inductive Refusal
  | unknownArgument
  | invalidValue
  | invalidNumber
  | missingOperand
  | repeatedOption
  | needlessValue
  | unknownCommand
  | help
  | version
deriving DecidableEq

/-- Help and version are asked for; everything else is a mistake. -/
def Refusal.isMistake : Refusal → Bool
  | help => false
  | version => false
  | _ => true

/-- A number without sign or with a plus, of at most 64 bits. -/
def count? (text : String) : Option Nat :=
  let digits := match text.toList with
    | '+' :: rest => rest
    | cs => cs
  if digits ≠ [] ∧ digits.all Char.isDigit then
    let n := Number.ofDigits 10 (digits.map fun c => c.toNat - '0'.toNat)
    if n < UInt64.size then some n else none
  else none

/-- What a value must be. -/
inductive ValueKind
  | text
  | path
  | count
  | choice (words : List String)
deriving DecidableEq

def ValueKind.check (kind : ValueKind) (value : String) : Except Refusal Unit :=
  match kind with
  | text => .ok ()
  | path => if value = "" then .error .invalidValue else .ok ()
  | count => if (count? value).isSome then .ok () else .error .invalidNumber
  | choice words => if value ∈ words then .ok () else .error .invalidValue

/-- Something that takes values. -/
structure Parameter where
  name : String
  kind : ValueKind
  isRepeatable : Bool := false
deriving DecidableEq

inductive Role
  | switch
  | value (kind : ValueKind) (isRepeatable : Bool)
  | help
  | version
deriving DecidableEq

/-- An option, `--name` in full and `-c` in short. -/
structure Flag where
  name : String
  short : Option Char := none
  role : Role := .switch
deriving DecidableEq

structure Grammar where
  flags : List Flag
  operands : List Parameter
  /-- How many of the operands must be given. -/
  required : Nat := 0

/-- The values given under each name, in order; a switch has an empty one. -/
abbrev Given := List (String × String)

namespace Given

def has (given : Given) (name : String) : Bool :=
  given.any (·.1 = name)

def all (given : Given) (name : String) : List String :=
  (given.filter (·.1 = name)).map (·.2)

def get? (given : Given) (name : String) : Option String :=
  (given.find? (·.1 = name)).map (·.2)

end Given

/--
How far the arguments have been read. A value in an argument of its own is looked at only when the
next argument that is not refused outright has been reached, and this decides which of two faults is
told.
-/
structure Progress where
  given : Given := []
  /-- The values that still have to be looked at. -/
  pending : Option (Parameter × List String) := none
  /-- Whether the next argument is the value of the pending option. -/
  isAwaiting : Bool := false
  /-- The operands that may still come. -/
  operands : List Parameter
  /-- Whether all further arguments are operands. -/
  isPlain : Bool := false

namespace Progress

/-- Takes values for a parameter. -/
def accept (progress : Progress) (parameter : Parameter) (values : List String) :
    Except Refusal Progress := do
  if values = [] then throw .invalidValue
  if ¬parameter.isRepeatable ∧ progress.given.has parameter.name then throw .repeatedOption
  values.forM parameter.kind.check
  return { progress with
    given := progress.given ++ values.map fun value => (parameter.name, value) }

/-- Looks at the pending values. -/
def settle (progress : Progress) : Except Refusal Progress :=
  match progress.pending with
  | none => .ok progress
  | some (parameter, values) =>
    { progress with pending := none, isAwaiting := false }.accept parameter values

/-- An option that takes no value. -/
def switch (progress : Progress) (name : String) : Except Refusal Progress := do
  let progress ← progress.settle
  if progress.given.has name then throw .repeatedOption
  return { progress with given := progress.given ++ [(name, "")] }

/-- An option with its value in the same argument. -/
def attach (progress : Progress) (parameter : Parameter) (value : String) :
    Except Refusal Progress := do
  (← progress.settle).accept parameter [value]

/-- An option whose value is the next argument. -/
def await (progress : Progress) (parameter : Parameter) : Except Refusal Progress := do
  return { ← progress.settle with pending := some (parameter, []), isAwaiting := true }

/-- An option in full, with the value after its equals sign. -/
def long (progress : Progress) (flag : Flag) (value : Option String) : Except Refusal Progress :=
  match flag.role, value with
  | .value kind isRepeatable, some value => progress.attach ⟨flag.name, kind, isRepeatable⟩ value
  | .value kind isRepeatable, none => progress.await ⟨flag.name, kind, isRepeatable⟩
  | _, some _ => .error .needlessValue
  | .switch, none => progress.switch flag.name
  | .help, none => do let _ ← progress.settle; throw .help
  | .version, none => do let _ ← progress.settle; throw .version

/-- Options in short: switches, and at the end one that takes what follows it as its value. -/
def short (flags : List Flag) (progress : Progress) : List Char → Except Refusal Progress
  | [] => .ok progress
  | c :: rest =>
    match flags.find? (·.short = some c) with
    | none => .error .unknownArgument
    | some flag =>
      match flag.role, rest with
      | .value kind isRepeatable, [] => progress.await ⟨flag.name, kind, isRepeatable⟩
      | .value kind isRepeatable, '=' :: value =>
        progress.attach ⟨flag.name, kind, isRepeatable⟩ (String.ofList value)
      | .value kind isRepeatable, value =>
        progress.attach ⟨flag.name, kind, isRepeatable⟩ (String.ofList value)
      | _, _ => do short flags (← progress.long flag none) rest

/-- An argument that is no option. -/
def operand (progress : Progress) (argument : String) : Except Refusal Progress :=
  match progress.operands with
  | [] => .error .unknownArgument
  | next :: later =>
    match progress.pending with
    | some (parameter, values) =>
      if parameter = next ∧ next.isRepeatable then
        .ok { progress with pending := some (next, values ++ [argument]) }
      else do
        return { ← progress.settle with
          pending := some (next, [argument])
          operands := if next.isRepeatable then next :: later else later }
    | none =>
      .ok { progress with
        pending := some (next, [argument])
        operands := if next.isRepeatable then next :: later else later }

/-- The name and the value of an option in full. -/
def splitLong (cs : List Char) : String × Option String :=
  let name := String.ofList (cs.takeWhile (· ≠ '='))
  match cs.dropWhile (· ≠ '=') with
  | _ :: value => (name, some (String.ofList value))
  | [] => (name, none)

/-- Reads one argument. -/
def step (flags : List Flag) (progress : Progress) (argument : String) : Except Refusal Progress :=
  if progress.isPlain then progress.operand argument
  else
    match argument.toList with
    | ['-', '-'] => .ok { progress with isPlain := true }
    | '-' :: '-' :: rest =>
      let (name, value) := splitLong rest
      match flags.find? (·.name = name) with
      | some flag => progress.long flag value
      | none => .error .unknownArgument
    | '-' :: c :: rest => short flags progress (c :: rest)
    | _ =>
      match progress.isAwaiting, progress.pending with
      | true, some (parameter, values) =>
        .ok { progress with pending := some (parameter, values ++ [argument]), isAwaiting := false }
      | _, _ => progress.operand argument

end Progress

/-- What is given by arguments. -/
def Grammar.read (grammar : Grammar) (arguments : List String) : Except Refusal Given := do
  let progress ← arguments.foldlM (Progress.step grammar.flags) { operands := grammar.operands }
  let given := (← progress.settle).given
  if (grammar.operands.take grammar.required).any (¬given.has ·.name) then throw .missingOperand
  return given

/-- Options of the analysis of scripts. -/
structure AnalyzeOptions where
  paths : List String := []
  notes : Bool := false
  quiet : Bool := false
  dump : Bool := false
  output : Option OutputFormat := none
  outputFile : Option String := none
  noColors : Bool := false
  dataDir : Option String := none
  baseline : Option String := none
  exclude : List String := []
  maxDepth : Option Nat := none
  followLinks : Bool := false
  config : Option String := none
  init : Bool := false
  verbose : Bool := false
deriving DecidableEq

/-- Options of a search in a changelog. -/
structure FindOptions where
  pattern : String
  version : Option String := none
  action : Option String := none
  category : String := "modules"
  dataDir : Option String := none
deriving DecidableEq

/-- Options of the merging of changelogs. -/
structure MergeOptions where
  dir : String
  dest : String := "modules.json"
deriving DecidableEq

inductive Request
  | analyze (options : AnalyzeOptions)
  | find (options : FindOptions)
  | merge (options : MergeOptions)
deriving DecidableEq

def helpFlag : Flag := ⟨"help", some 'h', .help⟩

def analyzeGrammar : Grammar where
  flags := [
    ⟨"notes", some 'n', .switch⟩,
    ⟨"quiet", some 'q', .switch⟩,
    ⟨"dump", some 'd', .switch⟩,
    ⟨"output", some 'o', .value (.choice (OutputFormat.all.map OutputFormat.name)) false⟩,
    ⟨"output-file", none, .value .path false⟩,
    ⟨"no-colors", none, .switch⟩,
    ⟨"data-dir", none, .value .path false⟩,
    ⟨"baseline", none, .value .text false⟩,
    ⟨"exclude", some 'e', .value .text true⟩,
    ⟨"max-depth", none, .value .count false⟩,
    ⟨"follow-links", none, .switch⟩,
    ⟨"config", some 'c', .value .path false⟩,
    ⟨"init", none, .switch⟩,
    ⟨"verbose", some 'v', .switch⟩,
    helpFlag,
    ⟨"version", some 'V', .version⟩]
  operands := [⟨"path", .path, true⟩]

def findGrammar : Grammar where
  flags := [
    ⟨"version", some 'v', .value .text false⟩,
    ⟨"action", some 'a', .value .text false⟩,
    ⟨"category", none, .value .text false⟩,
    ⟨"data-dir", none, .value .path false⟩,
    helpFlag]
  operands := [⟨"pattern", .text, false⟩]
  required := 1

def mergeGrammar : Grammar where
  flags := [helpFlag]
  operands := [⟨"dir", .path, false⟩, ⟨"dest", .path, false⟩]
  required := 1

def AnalyzeOptions.ofGiven (given : Given) : AnalyzeOptions where
  paths := given.all "path"
  notes := given.has "notes"
  quiet := given.has "quiet"
  dump := given.has "dump"
  output := (given.get? "output").bind OutputFormat.ofName?
  outputFile := given.get? "output-file"
  noColors := given.has "no-colors"
  dataDir := given.get? "data-dir"
  baseline := given.get? "baseline"
  exclude := given.all "exclude"
  maxDepth := (given.get? "max-depth").bind count?
  followLinks := given.has "follow-links"
  config := given.get? "config"
  init := given.has "init"
  verbose := given.has "verbose"

def FindOptions.ofGiven (given : Given) : FindOptions where
  pattern := (given.get? "pattern").getD ""
  version := given.get? "version"
  action := given.get? "action"
  category := (given.get? "category").getD "modules"
  dataDir := given.get? "data-dir"

def MergeOptions.ofGiven (given : Given) : MergeOptions where
  dir := (given.get? "dir").getD ""
  dest := (given.get? "dest").getD "modules.json"

/-- The words that name a command when they are the first argument. -/
def commandNames : List String :=
  ["find", "merge", "help"]

/-- Help on a command: the names after it must lead to one. -/
def helpRefusal : List String → Refusal
  | [] => .help
  | [name] => if name ∈ commandNames then .help else .unknownCommand
  | _ => .unknownCommand

/-- The request of the arguments of the program. -/
def read : List String → Except Refusal Request
  | "find" :: rest => do return .find (.ofGiven (← findGrammar.read rest))
  | "merge" :: rest => do return .merge (.ofGiven (← mergeGrammar.read rest))
  | "help" :: rest => .error (helpRefusal rest)
  | arguments => do return .analyze (.ofGiven (← analyzeGrammar.read arguments))

end VersionFloor.Arguments
