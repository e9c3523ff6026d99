import VersionFloor.Arguments
import VersionFloor.Settings
import VersionFloor.Text.Blank

set_option autoImplicit false

namespace VersionFloor

/-- The environment variables, and the home folder of the user's account. -/
structure Environment where
  values : Table String
  accountHome : Option String := none

instance : Coe (Table String) Environment where
  coe values := { values }

namespace Environment

def empty : Environment where
  values := .empty

def get? (environment : Environment) (name : String) : Option String :=
  environment.values.get? name

end Environment

namespace Settings.Environment

/-- The keys after the lead. -/
inductive Key
  | baseline
  | dataDir
  | exclude
  | maxDepth
  | followLinks
  | outputFormat
  | outputFile
  | showNotes
  | quiet
  | verbose
  | noColors
deriving DecidableEq

namespace Key

def all : List Key :=
  [baseline, dataDir, exclude, maxDepth, followLinks, outputFormat, outputFile, showNotes, quiet,
    verbose, noColors]

def name : Key → String
  | baseline => "BASELINE"
  | dataDir => "DATA_DIR"
  | exclude => "EXCLUDE"
  | maxDepth => "MAX_DEPTH"
  | followLinks => "FOLLOW_LINKS"
  | outputFormat => "OUTPUT_FORMAT"
  | outputFile => "OUTPUT_FILE"
  | showNotes => "SHOW_NOTES"
  | quiet => "QUIET"
  | verbose => "VERBOSE"
  | noColors => "NO_COLORS"

/-- The name of the variable. -/
def variableName (key : Key) (lead : String) : String :=
  s!"{lead}_{key.name}"

end Key

def trimmed (text : String) : String :=
  String.ofList (Text.trim text.toList)

/-- The value of a variable that is more than white space. -/
def value? (environment : Environment) (lead : String) (key : Key) : Option String :=
  (environment.get? (key.variableName lead)).filter (trimmed · ≠ "")

/--
A truth value in words; no letter outside ASCII has one of these words' letters as lower case.
-/
def truth? (word : String) : Option Bool :=
  if word.toLower ∈ ["1", "true", "yes", "on"] then some true
  else if word.toLower ∈ ["0", "false", "no", "off"] then some false
  else none

def flag (environment : Environment) (lead : String) (key : Key) : Except Error (Option Bool) :=
  match value? environment lead key with
  | none => .ok none
  | some value =>
    match truth? (trimmed value) with
    | some isOn => .ok isOn
    | none => .error (.badSetting s!"Invalid boolean '{value}' in {key.variableName lead}")

def depth (environment : Environment) (lead : String) : Except Error (Option Nat) :=
  match value? environment lead .maxDepth with
  | none => .ok none
  | some value =>
    match Arguments.count? (trimmed value) with
    | some depth => .ok depth
    | none =>
      .error (.badSetting s!"Invalid max depth '{value}' in {Key.maxDepth.variableName lead}")

def format (environment : Environment) (lead : String) : Except Error (Option OutputFormat) :=
  match value? environment lead .outputFormat with
  | none => .ok none
  | some value =>
    match OutputFormat.ofName? value with
    | some format => .ok format
    | none => .error (.badSetting (OutputFormat.refusal value))

/-- The patterns between commas, without white space around them. -/
def patterns (list : String) : List String :=
  ((list.toList.splitOn ',').map fun part => String.ofList (Text.trim part)).filter (· ≠ "")

/-- The name under which the variables are spoken of. -/
def sourceName (lead : String) : String :=
  s!"{lead} environment variables"

/-- Whether a variable is set. -/
def isSet (environment : Environment) (lead : String) : Bool :=
  Key.all.any fun key => (value? environment lead key).isSome

/-- The layer of the variables. -/
def layer (environment : Environment) (lead : String) : Except Error Layer := do
  let followLinks ← flag environment lead .followLinks
  let showNotes ← flag environment lead .showNotes
  let quiet ← flag environment lead .quiet
  let verbose ← flag environment lead .verbose
  let noColors ← flag environment lead .noColors
  let maxDepth ← depth environment lead
  let outputFormat ← format environment lead
  Layer.checked (sourceName lead) {
    baseline := value? environment lead .baseline
    dataDir := value? environment lead .dataDir
    outputFile := value? environment lead .outputFile
    excludePatterns := (value? environment lead .exclude).map patterns
    followLinks, showNotes, quiet, verbose, maxDepth, outputFormat
    useColors := noColors.map (!·) }

end Settings.Environment

end VersionFloor
