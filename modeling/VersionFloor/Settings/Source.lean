import VersionFloor.Settings.Environment
import VersionFloor.Settings.Text

set_option autoImplicit false

namespace VersionFloor.Settings

/-- A source of a layer. -/
structure Source where
  name : String
  priority : Nat
  isAvailable : Bool
  layer : Except Error Layer

/-- The name of a file of settings. -/
def fileName : String := ".detect-version.toml"

/-- The lead of the names of environment variables. -/
def variableLead : String := "DETECT_VERSION"

/-- The layer of a file that must be there. -/
def fileLayer (tree : FileTree) (path : String) : Except Error Layer := do
  if ¬tree.contains path then throw (.missingConfig path)
  match tree.read path with
  | .ok text => Layer.ofText path text
  | .error fault => throw (.unreadableConfig path fault.failure)

namespace Source

/-- The file at a path, or the file in the current folder. -/
def file (tree : FileTree) (path : Option String) : Source :=
  let place := path.getD fileName
  { name := match path with
      | some path => s!"config file ({path})"
      | none => "default config file"
    priority := 20
    isAvailable := tree.isFile place
    layer := if tree.isFile place then fileLayer tree place else .error (.missingConfig place) }

def environment (env : Environment) (lead : String) : Source where
  name := Environment.sourceName lead
  priority := 10
  isAvailable := Environment.isSet env lead
  layer := Environment.layer env lead

/-- A switch sets something only if it is on. -/
def switched (isOn : Bool) : Option Bool :=
  if isOn then some true else none

/-- What the options of an analysis set. -/
def optionLayer (options : Arguments.AnalyzeOptions) : Layer where
  paths := if options.paths = [] then none else some options.paths
  excludePatterns := if options.exclude = [] then none else some options.exclude
  maxDepth := options.maxDepth
  followLinks := switched options.followLinks
  baseline := options.baseline
  dataDir := options.dataDir
  outputFormat := options.output
  outputFile := options.outputFile
  showNotes := switched options.notes
  quiet := switched options.quiet
  verbose := switched options.verbose
  useColors := if options.noColors then some false else none

def commandLine (options : Arguments.AnalyzeOptions) : Source where
  name := "command-line arguments"
  priority := 30
  isAvailable := true
  layer := (optionLayer options).checked "command-line arguments"

/-- The layers so far and above them that of the source, if it is there. -/
def addTo (source : Source) (lower : Layer) : Except Error Layer := do
  if source.isAvailable then return lower.merge (← source.layer) else return lower

/-- Like `addTo`, with a source that fails counted as not there. -/
def addToIfSound (source : Source) (lower : Layer) : Layer :=
  if source.isAvailable then
    match source.layer with
    | .ok upper => lower.merge upper
    | .error _ => lower
  else lower

end Source

/-- The folder of the user: what the variable says, or else what the account has. -/
def homeFolder? (env : Environment) : Option String :=
  ((env.get? "HOME").filter (· ≠ "")).or (env.accountHome.filter (· ≠ ""))

/-- The folder of the user's settings. -/
def configFolder? (env : Environment) : Option String :=
  ((env.get? "XDG_CONFIG_HOME").filter fun path => Path.isAbsolute path).or
    ((homeFolder? env).map (Path.join · ".config"))

/-- Where a file of settings is looked for. -/
def defaultFiles (env : Environment) : List String :=
  [fileName]
    ++ ((homeFolder? env).map (Path.join · fileName)).toList
    ++ ((configFolder? env).map fun folder =>
        Path.join (Path.join folder "detect-version") "config.toml").toList

/-- The layers so far and above them that of a file, which must be there. -/
def overFile (tree : FileTree) (path : String) (lower : Layer) : Except Error Layer :=
  if tree.isFile path then (Source.file tree (some path)).addTo lower
  else .error (.missingConfig path)

/-- The layers so far and above them that of the first of the default files that is there. -/
def overDefaultFile (tree : FileTree) (env : Environment) (lower : Layer) :
    Except Error Layer := do
  match (defaultFiles env).find? tree.isFile with
  | some path => return lower.merge (← fileLayer tree path)
  | none => return lower

/-- The settings of a run: those of a file, of the environment and of the command line. -/
def load (tree : FileTree) (env : Environment) (lead : String)
    (options : Arguments.AnalyzeOptions) : Except Error Settings := do
  let fromFile ← match options.config with
    | some path => overFile tree path .empty
    | none => overDefaultFile tree env .empty
  let fromEnvironment ← (Source.environment env lead).addTo fromFile
  let layers ← (Source.commandLine options).addTo fromEnvironment
  ofLayer tree layers

end VersionFloor.Settings
