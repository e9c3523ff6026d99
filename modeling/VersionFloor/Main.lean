import VersionFloor.Command

set_option autoImplicit false

namespace VersionFloor.Program

/-- The path of a place. -/
def pathOf (place : Place) : String :=
  "/" ++ "/".intercalate place

/-- The names of an absolute path. -/
def placeOf (path : String) : Place :=
  (Path.parts path).filterMap fun
    | .name text => some text
    | _ => none

def faultOf : IO.Error → FileTree.Fault
  | .permissionDenied _ _ _ => .denied
  | .noFileOrDirectory _ _ _ => .missing
  | error => .other (toString error)

def contentAt (path : String) : IO (Except FileTree.Fault String) := do
  try
    match String.fromUTF8? (← IO.FS.readBinFile path) with
    | some text => return .ok text
    | none => return .error .notText
  catch error => return .error (faultOf error)

/-- What stands at a path; a link leads straight to its end. -/
def entryAt (path : String) : IO (Option FileTree.Entry) := do
  try
    let here ← IO.currentDir
    match (← (here / path).symlinkMetadata).type with
    | .dir => return some .folder
    | .symlink => return some (.link (← IO.FS.realPath path).toString)
    | _ => return some (.file (← contentAt path))
  catch _ => return none

/-- Adds what stands along the names from a folder on. -/
partial def addNames (tree : FileTree) (folder : Place) : List String → IO (FileTree × Place)
  | [] => return (tree, folder)
  | name :: rest => do
    if name = "" || name = "." then addNames tree folder rest
    else if name = ".." then addNames tree folder.dropLast rest
    else
      let place := folder ++ [name]
      match ← entryAt (pathOf place) with
      | none => return (tree, place)
      | some (.link target) =>
        let tree := tree.put place (.link target)
        if placeOf target = place then return (tree, place)
        let (tree, inner) ← addNames tree [] (placeOf target)
        addNames tree inner rest
      | some entry =>
        let tree := if (tree.entry? place).isSome then tree else tree.put place entry
        addNames tree place rest

def namesIn (folder : Place) : IO (List String) := do
  let here ← IO.currentDir
  try return (← (here / pathOf folder).readDir).toList.map (·.fileName) catch _ => return []

/--
Adds what stands below a folder, with the folders that links lead to if they are to be followed.
-/
partial def addBelow (followLinks : Bool) (seen : List Place) (tree : FileTree) (folder : Place) :
    IO FileTree := do
  if folder ∈ seen then return tree
  let mut tree := tree
  for name in ← namesIn folder do
    let (grown, inner) ← addNames tree folder [name]
    tree := grown
    if followLinks || inner = folder ++ [name] then
      if let some .folder := tree.entry? inner then
        tree ← addBelow followLinks (folder :: seen) tree inner
  return tree

/-- Adds what can match the pieces of a pattern, from a folder on. -/
partial def addMatching (tree : FileTree) (folder : Place) : List Glob → IO FileTree
  | [] => return tree
  | glob :: rest => do
    if glob.isRecursive then addBelow true [] tree folder
    else
      let names ← match glob.literal? with
        | some name => pure [name]
        | none => pure ((← namesIn folder).filter glob.accepts ++ glob.dotNames)
      names.foldlM (fun tree name => do
        let (tree, inner) ← addNames tree folder [name]
        addMatching tree inner rest) tree

/-- Adds what a path with wildcards can mean. -/
def addPattern (tree : FileTree) (pattern : String) : IO FileTree :=
  match (Glob.pieces pattern.toList).mapM fun piece => Glob.compile (String.ofList piece) with
  | .ok globs => addMatching tree (FileTree.start pattern tree.current) globs
  | .error _ => return tree

/-- Adds what a path leads to, and what is below it if it is a folder to look through. -/
def addPath (isDeep followLinks : Bool) (tree : FileTree) (path : String) : IO FileTree := do
  let (tree, place) ← addNames tree (FileTree.start path tree.current) (FileTree.steps path)
  match tree.entry? place with
  | some .folder => if isDeep then addBelow followLinks [] tree place else return tree
  | _ => return tree

def addPaths (tree : FileTree) (paths : List String) : IO FileTree :=
  paths.foldlM (addPath false false) tree

def dataFiles (folder : Option String) : List String :=
  match folder with
  | some folder => folder :: Category.all.map fun category => Path.join folder category.fileName
  | none => []

/-- The paths of an output file and of its folder. -/
def outputPaths (path : String) : List String :=
  path :: (Path.parent? path).toList

/-- The snapshot that a command needs. -/
def snapshot (tree : FileTree) (env : Environment) : Command → IO FileTree
  | .init => addPaths tree [Settings.fileName]
  | .find options => addPaths tree (dataFiles options.dataDir)
  | .merge options => do
    let tree ← addPaths tree (options.dir :: outputPaths options.dest)
    addPattern tree (Changelog.mergePattern options.dir)
  | .analyze options => do
    let tree ← addPaths tree (options.config.toList ++ Settings.defaultFiles env)
    let tree ← addPaths tree options.paths
    let layer := Settings.Source.optionLayer options
    let lower := match options.config with
      | some path => Settings.overFile tree path .empty
      | none => Settings.overDefaultFile tree env .empty
    let upper := lower.bind (Settings.Source.environment env Settings.variableLead).addTo
    match upper.bind fun upper => (upper.merge layer).settings with
    | .error _ => return tree
    | .ok settings =>
      let tree ← addPaths tree
        (dataFiles settings.dataDir ++ settings.outputFile.toList.flatMap outputPaths)
      settings.paths.foldlM (addPath true settings.followLinks) tree

/-- The environment variables that settings can come from. -/
def variableNames : List String :=
  ["HOME", "XDG_CONFIG_HOME"]
    ++ Settings.Environment.Key.all.map (·.variableName Settings.variableLead)

/-- The home folder of the account that the program runs for. -/
def accountHome? : IO (Option String) := do
  try
    let status ← IO.FS.readFile "/proc/self/status"
    let accounts ← IO.FS.readFile "/etc/passwd"
    let user? := (status.splitOn "\n").findSome? fun line =>
      match line.splitOn "\t" with
      | "Uid:" :: user :: _ => some user
      | _ => none
    return (accounts.splitOn "\n").findSome? fun line =>
      match line.splitOn ":" with
      | [_, _, user, _, _, home, _] => if user = user? then some home else none
      | _ => none
  catch _ => return none

def readEnvironment : IO Environment := do
  let values ← variableNames.filterMapM fun name => do
    return (← IO.getEnv name).map fun value => (name, value)
  return { values := Table.ofList values, accountHome := ← accountHome? }

/-- Carries out what has been written. -/
def writeChanges (before after : FileTree) : IO Unit := do
  for (place, entry) in after.entries do
    match entry, before.entry? place with
    | .folder, none => IO.FS.createDirAll (pathOf place)
    | .file (.ok text), some (.file (.ok known)) =>
      if text ≠ known then IO.FS.writeFile (pathOf place) text
    | .file (.ok text), _ => IO.FS.writeFile (pathOf place) text
    | _, _ => pure ()

def usage : String :=
  "Usage: detect-version [OPTIONS] [PATH]...\n" ++
  "       detect-version find [OPTIONS] PATTERN\n" ++
  "       detect-version merge DIR [DEST]\n"

def refusalText : Arguments.Refusal → String
  | .unknownArgument => "error: unexpected argument\n"
  | .invalidValue => "error: invalid value\n"
  | .invalidNumber => "error: invalid number\n"
  | .missingOperand => "error: a required argument was not given\n"
  | .repeatedOption => "error: an argument cannot be used multiple times\n"
  | .needlessValue => "error: unexpected value\n"
  | .unknownCommand => "error: unrecognized subcommand\n"
  | .help => ""
  | .version => "detect-version 0.6.2\n"

/--
Runs the command of the arguments on a snapshot of the files that it can look at, and carries out
what it has written.
-/
def run (arguments : List String) : IO UInt32 := do
  match Arguments.read arguments with
  | .error .version =>
    IO.print (refusalText .version)
    return 0
  | .error .help =>
    IO.print usage
    return 0
  | .error refusal =>
    IO.eprint (refusalText refusal ++ "\n" ++ usage)
    return 2
  | .ok request =>
    let command := Command.ofRequest request
    let env ← readEnvironment
    let current := placeOf (← IO.currentDir).toString
    let (tree, _) ← addNames { current } [] current
    let files ← snapshot tree env command
    let (ending, session) := command.run { files, environment := env }
    writeChanges files session.files
    IO.print ending.output
    IO.eprint session.notices
    return ending.exitCode

end VersionFloor.Program

def main (arguments : List String) : IO UInt32 :=
  VersionFloor.Program.run arguments
