import VersionFloor.Arguments
import VersionFloor.Changelog.Merge
import VersionFloor.Changelog.Search
import VersionFloor.Output.Changes
import VersionFloor.Script.Dump
import VersionFloor.Settings.Source
import VersionFloor.Settings.Template
import VersionFloor.Walk

set_option autoImplicit false

namespace VersionFloor

/-- The world of a command. -/
structure Session where
  files : FileTree
  environment : Environment := .empty
  cache : Cache := {}
  /-- What has been written to the standard error. -/
  notices : String := ""

/-- A step that works on a session and can fail; what it has done to the session stays done then. -/
abbrev Run := ExceptT Error (StateM Session)

namespace Run

def files : Run FileTree := do
  return (← get).files

/-- The changelogs of a folder, or the built-in ones. -/
def changelogs (folder : Option String) : Run Changelogs := do
  let session ← get
  let (cache, loaded) := session.cache.source session.files folder
  set { session with cache }
  loaded

def notice (text : String) : Run Unit :=
  modify fun session => { session with notices := session.notices ++ text }

/-- Writes a file. -/
def write (path text : String) : Run Unit := do
  let session ← get
  match session.files.write path text with
  | .ok files => set { session with files }
  | .error fault => throw (.unwritableFile path fault.failure)

/-- Makes a folder and the folders above it. -/
def makeFolders (path : String) : Run Unit := do
  let session ← get
  match session.files.makeFolders path with
  | .ok files => set { session with files }
  | .error fault => throw (.io fault.failure)

/-- Writes a first file of settings, and makes the folders that it needs. -/
def writeTemplate (path : String) : Run Unit := do
  let tree ← files
  if let some parent := Path.parent? path then
    if parent ≠ "" ∧ ¬tree.contains parent then makeFolders parent
  write path Settings.template

end Run

/-- What a command puts out, and the file for it if it is not the standard output. -/
structure CommandOutput where
  content : String
  destination : Option String := none
deriving DecidableEq

inductive Command
  | analyze (options : Arguments.AnalyzeOptions)
  | find (options : Arguments.FindOptions)
  | merge (options : Arguments.MergeOptions)
  | init
deriving DecidableEq

namespace Command

def ofRequest : Arguments.Request → Command
  | .analyze options => if options.init then init else analyze options
  | .find options => find options
  | .merge options => merge options

/-- The syntax tree of the only script. -/
def dumpOutput (settings : Settings) : Run CommandOutput := do
  let tree ← Run.files
  match (← Discovery.find settings tree).scripts with
  | [script] =>
    let body ← Script.read script (← Script.textAt tree script)
    return ⟨Script.dump body ++ "\n", settings.outputFile⟩
  | _ => throw (.usage "Cannot use --dump with multiple files.")

/-- The report on all scripts. Colours are for the standard output only. -/
def reportOutput (settings : Settings) (changelogs : Changelogs) : Run CommandOutput := do
  let tree ← Run.files
  let batch := Batch.ofDiscovery (Report.ofFile changelogs settings.baseline tree)
    (← Discovery.find settings tree)
  Run.notice batch.notices
  let results ← batch.outcome
  let style :=
    ⟨settings.useColors && settings.outputFile.isNone, settings.showNotes, settings.quiet⟩
  return ⟨settings.outputFormat.render style results, settings.outputFile⟩

def analyzeOutput (options : Arguments.AnalyzeOptions) : Run CommandOutput := do
  if options.paths = [] then
    throw (.usage "No paths given. Pass one or more Python files or directories (see --help).")
  let session ← get
  let settings ← Settings.load session.files session.environment Settings.variableLead options
  let changelogs ← Run.changelogs settings.dataDir
  if options.dump then dumpOutput settings else reportOutput settings changelogs

def findOutput (options : Arguments.FindOptions) : Run CommandOutput := do
  let category ← match Category.ofName? options.category with
    | some category => pure category
    | none => throw (.usage (Category.refusal options.category))
  let action ← match options.action with
    | none => pure none
    | some name =>
      match Action.ofName? name with
      | some action => pure (some action)
      | none => throw (.usage (Action.refusal name))
  let version ← match options.version with
    | none => pure none
    | some text => some <$> Error.versionOf text
  let changelogs ← Run.changelogs options.dataDir
  match (changelogs.get category).find options.pattern version action with
  | .ok found => return ⟨Output.changesText (Change.ofChangelog found version action), none⟩
  | .error fault => throw (.badPattern fault)

def mergeOutput (options : Arguments.MergeOptions) : Run CommandOutput := do
  let (merged, count) ← Changelog.mergeFolder (← Run.files) options.dir
  Run.write options.dest merged.text
  return ⟨s!"Merged {count} json files into {options.dest}\n", none⟩

def initOutput (path : String) : Run CommandOutput := do
  if (← Run.files).contains path then
    return ⟨s!"Configuration file already exists at: {path}\n" ++
      "To overwrite it, delete the file first and run this command again.\n", none⟩
  Run.writeTemplate path
  return ⟨s!"Created default configuration file at: {path}\n", none⟩

/-- What a command puts out. -/
def render : Command → Run CommandOutput
  | analyze options => analyzeOutput options
  | find options => findOutput options
  | merge options => mergeOutput options
  | init => initOutput Settings.fileName

/-- Puts the output where it goes; what is for the standard output is the result. -/
def deliver (output : CommandOutput) : Run String := do
  match output.destination with
  | some path =>
    Run.write path output.content
    return ""
  | none => return output.content

/-- How a command ended. -/
structure Ending where
  exitCode : UInt32
  output : String := ""
  error : Option Error := none

def exitCodeOf (error : Error) : UInt32 :=
  match error.severity with
  | .warning => 0
  | .error => 1
  | .critical => 2

/-- The line shown for the error that ended a command. -/
def errorLine (error : Error) : String :=
  s!"Error: {error.message}\n"

/-- Runs a command on a session. -/
def run (command : Command) (session : Session) : Ending × Session :=
  match (do deliver (← render command) : Run String).run session with
  | (.ok output, session) => (⟨0, output, none⟩, session)
  | (.error error, session) =>
    (⟨exitCodeOf error, "", some error⟩,
      { session with notices := session.notices ++ errorLine error })

end Command

end VersionFloor
