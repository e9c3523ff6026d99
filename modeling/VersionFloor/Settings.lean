import VersionFloor.FileTree
import VersionFloor.Output

set_option autoImplicit false

namespace VersionFloor

structure Settings where
  /-- The scripts and folders to analyse. -/
  paths : List String := []
  /-- The patterns of what is skipped in folders. -/
  excludePatterns : List String := ["__pycache__", ".git", ".venv", "venv", ".tox"]
  /-- How many levels of folders are looked through. -/
  maxDepth : Option Nat := none
  followLinks : Bool := false
  /-- The version that every script needs. -/
  baseline : Version := .baseline
  /-- The folder of the changelogs, unless the built-in ones are used. -/
  dataDir : Option String := none
  outputFormat : OutputFormat := .text
  /-- The file to write to instead of the standard output. -/
  outputFile : Option String := none
  showNotes : Bool := false
  quiet : Bool := false
  verbose : Bool := false
  useColors : Bool := true
deriving DecidableEq

namespace Settings

/-- Some of the settings; the baseline is still a text. -/
structure Layer where
  paths : Option (List String) := none
  excludePatterns : Option (List String) := none
  maxDepth : Option Nat := none
  followLinks : Option Bool := none
  baseline : Option String := none
  dataDir : Option String := none
  outputFormat : Option OutputFormat := none
  outputFile : Option String := none
  showNotes : Option Bool := none
  quiet : Option Bool := none
  verbose : Option Bool := none
  useColors : Option Bool := none
deriving DecidableEq

namespace Layer

/-- The layer that sets nothing. -/
def empty : Layer := {}

/-- What `upper` sets, and below it what `lower` sets. -/
def merge (lower upper : Layer) : Layer where
  paths := upper.paths.or lower.paths
  excludePatterns := upper.excludePatterns.or lower.excludePatterns
  maxDepth := upper.maxDepth.or lower.maxDepth
  followLinks := upper.followLinks.or lower.followLinks
  baseline := upper.baseline.or lower.baseline
  dataDir := upper.dataDir.or lower.dataDir
  outputFormat := upper.outputFormat.or lower.outputFormat
  outputFile := upper.outputFile.or lower.outputFile
  showNotes := upper.showNotes.or lower.showNotes
  quiet := upper.quiet.or lower.quiet
  verbose := upper.verbose.or lower.verbose
  useColors := upper.useColors.or lower.useColors

/-- The settings of a layer over the defaults. -/
def settings (layer : Layer) : Except Error Settings := do
  let defaults : Settings := {}
  let baseline ← match layer.baseline with
    | some text => Error.versionOf text
    | none => pure defaults.baseline
  return {
    paths := layer.paths.getD defaults.paths
    excludePatterns := layer.excludePatterns.getD defaults.excludePatterns
    maxDepth := layer.maxDepth
    followLinks := layer.followLinks.getD defaults.followLinks
    baseline := baseline
    dataDir := layer.dataDir
    outputFormat := layer.outputFormat.getD defaults.outputFormat
    outputFile := layer.outputFile
    showNotes := layer.showNotes.getD defaults.showNotes
    quiet := layer.quiet.getD defaults.quiet
    verbose := layer.verbose.getD defaults.verbose
    useColors := layer.useColors.getD defaults.useColors }

/-- What is wrong with the values of a layer. -/
inductive Fault
  | baseline (text : String) (fault : Version.Fault)
  | emptyPattern
  | pattern (text : String) (fault : Glob.Fault)
  | depth
  | emptyPath (key : String)
deriving DecidableEq

/-- The fault of a layer that comes from `origin`. -/
def Fault.message (origin : String) : Fault → String
  | baseline text fault => s!"Invalid baseline in {origin}: {Version.refusal text fault.message}"
  | emptyPattern => s!"Empty exclude pattern in {origin}"
  | pattern text fault => s!"Invalid exclude pattern '{text}' in {origin}: {fault.message}"
  | depth => s!"Invalid max_depth 0 in {origin}. Must be at least 1."
  | emptyPath key => s!"Invalid empty {key} in {origin}"

def checkPattern (text : String) : Except Fault Unit :=
  if text = "" then .error .emptyPattern
  else
    match Glob.compile text with
    | .ok _ => .ok ()
    | .error fault => .error (.pattern text fault)

def checkBaseline (text : String) : Except Fault Unit :=
  match Version.parse text with
  | .ok _ => .ok ()
  | .error fault => .error (.baseline text fault)

/-- Refuses values that no run could use. -/
def fault (layer : Layer) : Except Fault Unit := do
  layer.baseline.forM checkBaseline
  (layer.excludePatterns.getD []).forM checkPattern
  if layer.maxDepth = some 0 then throw .depth
  if layer.dataDir = some "" then throw (.emptyPath "data_dir")
  if layer.outputFile = some "" then throw (.emptyPath "output_file")

/-- The layer itself, or the error of its first fault. -/
def checked (origin : String) (layer : Layer) : Except Error Layer :=
  match layer.fault with
  | .ok _ => .ok layer
  | .error fault => .error (.badSetting (fault.message origin))

end Layer

/-- The path of an output file is not that of a folder, and its folder is there. -/
def checkOutputFile (tree : FileTree) (path : String) : Except Error Unit := do
  if tree.isFolder path then throw (.badSetting s!"Output file '{path}' is a directory")
  match Path.parent? path with
  | some parent => if parent ≠ "" ∧ ¬tree.isFolder parent then throw (.noSuchPath parent)
  | none => pure ()

def checkPath (tree : FileTree) (path : String) : Except Error Unit :=
  if tree.contains path then .ok () else .error (.noSuchPath path)

def checkPattern (text : String) : Except Error Unit :=
  match Glob.compile text with
  | .ok _ => .ok ()
  | .error fault => .error (.badPattern fault)

def checkDataDir (tree : FileTree) (path : String) : Except Error Unit :=
  if tree.isFolder path then .ok ()
  else .error (.badSetting s!"Data directory '{path}' is not a directory")

/-- Refuses settings that do not fit the files there are. -/
def check (settings : Settings) (tree : FileTree) : Except Error Unit := do
  settings.paths.forM (checkPath tree)
  settings.excludePatterns.forM checkPattern
  if settings.maxDepth = some 0 then throw (.badSetting "Max depth must be at least 1")
  settings.dataDir.forM (checkDataDir tree)
  settings.outputFile.forM (checkOutputFile tree)

/-- The settings of a layer, fit for the files there are. -/
def ofLayer (tree : FileTree) (layer : Layer) : Except Error Settings := do
  let settings ← layer.settings
  settings.check tree
  return settings

end Settings

end VersionFloor
