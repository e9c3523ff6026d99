import VersionFloor.Changelog

set_option autoImplicit false

namespace VersionFloor

/-- A failed access to a file. -/
structure IoFailure where
  text : String
  isDenied : Bool := false
deriving DecidableEq

inductive Severity
  | warning
  | error
  | critical
deriving DecidableEq

def Severity.name : Severity → String
  | warning => "WARNING"
  | error => "ERROR"
  | critical => "CRITICAL"

inductive Error
  | io (failure : IoFailure)
  | unreadableScript (path : String) (failure : IoFailure)
  | accessDenied (path : String)
  | noSuchPath (path : String)
  | invalidScript (path : String) (line : Nat) (reason : String)
  | badChangelog (origin : String) (fault : Changelog.Fault)
  | missingFeature (name : String)
  | invalidVersion (text reason : String)
  | invalidRequirement (name : String)
  | badSetting (reason : String)
  | missingConfig (path : String)
  | unreadableConfig (path : String) (failure : IoFailure)
  | malformedConfig (path : String)
  | usage (reason : String)
  | badPattern (fault : Glob.Fault)
  | traversal (path reason : String)
  | unwritableFile (path : String) (failure : IoFailure)
  | unwritableOutput (failure : IoFailure)
  | malformedJson (reason : String)
deriving DecidableEq

namespace Error

/-- The error in full. -/
def description : Error → String
  | io failure => s!"IO error: {failure.text}"
  | unreadableScript path failure => s!"Error reading {path}: {failure.text}"
  | accessDenied path => s!"Permission denied accessing {path}"
  | noSuchPath path => s!"Invalid path: {path}"
  | invalidScript path line reason => s!"Error parsing {path} at line {line}: {reason}"
  | badChangelog origin fault => s!"Error loading changelog {origin}: {fault.message}"
  | missingFeature name => s!"Could not find a requirement for '{name}'"
  | invalidVersion text reason => Version.refusal text reason
  | invalidRequirement name => Requirement.refusal name
  | badSetting reason => s!"Configuration error: {reason}"
  | missingConfig path => s!"Configuration file not found at {path}"
  | unreadableConfig path failure => s!"Error reading configuration file {path}: {failure.text}"
  | malformedConfig path => s!"Error parsing configuration file {path}"
  | usage reason => reason
  | badPattern fault => s!"Glob pattern error: {fault.message}"
  | traversal path reason => s!"Directory traversal error for {path}: {reason}"
  | unwritableFile path failure => s!"Error writing to output file {path}: {failure.text}"
  | unwritableOutput failure => s!"Error writing to stdout: {failure.text}"
  | malformedJson reason => s!"JSON serialization error: {reason}"

/-- The error as the user is told. -/
def message : Error → String
  | accessDenied path =>
    s!"Cannot access '{path}' due to permission denied. Check file permissions."
  | unreadableScript path failure => s!"Error reading {path} ({failure.text})"
  | invalidScript path line _ =>
    s!"Error parsing {path} (line {line}). Not a valid Python 3 script."
  | noSuchPath path => s!"'{path}' is not a file or directory."
  | missingConfig path =>
    s!"Configuration file not found at '{path}'. Create one with --init or omit --config."
  | missingFeature name =>
    s!"Could not find a requirement for '{name}'. The language changelog is out of date."
  | error => error.description

/-- A warning or an error ends the work on one script, a critical error ends the run. -/
def severity : Error → Severity
  | accessDenied _ => .warning
  | io _ => .error
  | unreadableScript _ _ => .error
  | noSuchPath _ => .error
  | invalidScript _ _ _ => .error
  | traversal _ _ => .error
  | malformedJson _ => .error
  | _ => .critical

def isCritical (error : Error) : Bool :=
  error.severity = .critical

/-- The errors in what a run starts from or ends with, not in a script or on the way to one. -/
inductive EndsRun : Error → Prop
  | badChangelog (origin : String) (fault : Changelog.Fault) : EndsRun (badChangelog origin fault)
  | missingFeature (name : String) : EndsRun (missingFeature name)
  | invalidVersion (text reason : String) : EndsRun (invalidVersion text reason)
  | invalidRequirement (name : String) : EndsRun (invalidRequirement name)
  | badSetting (reason : String) : EndsRun (badSetting reason)
  | missingConfig (path : String) : EndsRun (missingConfig path)
  | unreadableConfig (path : String) (failure : IoFailure) : EndsRun (unreadableConfig path failure)
  | malformedConfig (path : String) : EndsRun (malformedConfig path)
  | usage (reason : String) : EndsRun (usage reason)
  | badPattern (fault : Glob.Fault) : EndsRun (badPattern fault)
  | unwritableFile (path : String) (failure : IoFailure) : EndsRun (unwritableFile path failure)
  | unwritableOutput (failure : IoFailure) : EndsRun (unwritableOutput failure)

theorem isCritical_iff {error : Error} : error.isCritical = true ↔ error.EndsRun := by
  constructor
  · intro critical
    have grave := of_decide_eq_true critical
    cases error <;> first | constructor | cases grave
  · intro ends
    cases ends <;> rfl

/-- What caused the error, where that is an error of its own. -/
def source? : Error → Option String
  | io failure => some failure.text
  | unreadableScript _ failure => some failure.text
  | unreadableConfig _ failure => some failure.text
  | badPattern fault => some fault.message
  | unwritableFile _ failure => some failure.text
  | unwritableOutput failure => some failure.text
  | malformedJson reason => some reason
  | _ => none

/-- The line shown for an error that does not end the run. -/
def notice? (error : Error) : Option String :=
  match error.severity with
  | .warning => some s!"Warning: {error.message}\n"
  | .error => some s!"Error: {error.message}\n"
  | .critical => none

/-- The error of a failed access on a walk through directories. -/
def ofAccess (path : String) (failure : IoFailure) : Error :=
  if failure.isDenied then accessDenied path else traversal path failure.text

/-- The error of a fault in a record. -/
def ofRecord : Record.Fault → Error
  | .version text fault => invalidVersion text fault.message
  | .unpopulated name => invalidRequirement name

/-- A version, or the error of a text that is none. -/
def versionOf (text : String) : Except Error Version :=
  match Version.parse text with
  | .ok version => .ok version
  | .error fault => .error (invalidVersion text fault.message)

end Error

end VersionFloor
