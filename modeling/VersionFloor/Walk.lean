import VersionFloor.Report
import VersionFloor.Settings

set_option autoImplicit false

namespace VersionFloor

namespace Walk

/-- Whether a pattern matches the last name of a path or the whole of it. -/
def isExcluded (patterns : List Glob) (path : String) : Bool :=
  patterns.any fun pattern =>
    pattern.accepts ((Path.fileName? path).getD "") || pattern.accepts path

theorem isExcluded_iff {patterns : List Glob} {path name : String}
    (named : Path.fileName? path = some name) :
    isExcluded patterns path = true ↔
      ∃ pattern ∈ patterns, pattern.accepts name = true ∨ pattern.accepts path = true := by
  simp only [isExcluded, named, Option.getD_some, List.any_eq_true, Bool.or_eq_true]

/-- Scripts end in `.py` and are not hidden. -/
def isScript (path : String) : Bool :=
  match Path.fileName? path with
  | some name => name.toList.head? ≠ some '.' && Path.extension? path = some "py"
  | none => false

/-- What is met in a folder: a script, or something that cannot be looked at. -/
inductive Sighting
  | script (path : String)
  | trouble (path : String) (error : Error)

def Sighting.script? : Sighting → Option String
  | script path => some path
  | trouble _ _ => none

def Sighting.trouble? : Sighting → Option (String × Error)
  | script _ => none
  | trouble path error => some (path, error)

/-- How folders are looked through. -/
structure Rules where
  tree : FileTree
  excluded : List Glob
  followLinks : Bool

/-- The sighting of a file. -/
def ofFile (rules : Rules) (path : String) : List Sighting :=
  if isExcluded rules.excluded path then []
  else if isScript path then [.script path]
  else []

/-- The error of a link that leads nowhere. -/
def deadLink (path : String) (fault : FileTree.Fault) : Sighting :=
  .trouble path (.ofAccess path
    ⟨s!"IO error for operation on {path}: {fault.message}", fault.failure.isDenied⟩)

/-- The error of a link to a folder that it stands in. -/
def loop (path ancestor : String) : Sighting :=
  .trouble path (.ofAccess path
    ⟨s!"File system loop found: {path} points to an ancestor {ancestor}", false⟩)

/--
Looks through a folder, `levels` deep. The folder is written as `path` and stands at `place`;
`above` are the folders that lead to it, itself included, innermost first.
-/
def folder (rules : Rules) : Nat → List (Place × String) → Place → String → List Sighting
  | 0, _, _, _ => []
  | levels + 1, above, place, path =>
    (rules.tree.names place).flatMap fun name =>
      let child := Path.join path name
      let enter (inner : Place) :=
        if isExcluded rules.excluded child then []
        else folder rules levels ((inner, child) :: above) inner child
      match rules.tree.entry? (place ++ [name]) with
      | none => []
      | some (.file _) => ofFile rules child
      | some .folder => enter (place ++ [name])
      | some (.link _) =>
        if rules.followLinks then
          match rules.tree.look child with
          | .error fault => [deadLink child fault]
          | .ok (_, .file _) => ofFile rules child
          | .ok (_, .link _) => []
          | .ok (inner, .folder) =>
            match above.find? (·.1 = inner) with
            | some (_, ancestor) => [loop child ancestor]
            | none => enter inner
        else []

/-- The levels of folders to look through; there is at least one. -/
def levels (tree : FileTree) (maxDepth : Option Nat) : Nat :=
  match maxDepth with
  | some depth => Nat.max depth 1
  | none => tree.reach

/-- What is met on one of the paths to analyse. -/
def ofPath (rules : Rules) (maxDepth : Option Nat) (path : String) : Except Error (List Sighting) :=
  match rules.tree.look path with
  | .ok (_, .file _) => .ok [.script path]
  | .ok (place, .folder) =>
    .ok (folder rules (levels rules.tree maxDepth) [(place, path)] place path)
  | _ => .error (.noSuchPath path)

/-- What makes two paths the same script: the place, or the text of a path that leads nowhere. -/
inductive Identity
  | place (names : Place)
  | text (path : String)
deriving DecidableEq

def identity (tree : FileTree) (path : String) : Identity :=
  match tree.place? path with
  | some names => .place names
  | none => .text path

/-- The paths without those whose script has been seen before. -/
def distinct (tree : FileTree) (seen : List Identity) : List String → List String
  | [] => []
  | path :: rest =>
    if identity tree path ∈ seen then distinct tree seen rest
    else path :: distinct tree (identity tree path :: seen) rest

end Walk

/-- The scripts to analyse, and the paths that could not be looked at. -/
structure Discovery where
  scripts : List String
  errors : List (String × Error) := []

namespace Discovery

def compileAll (patterns : List String) : Except Error (List Glob) :=
  patterns.mapM fun pattern => (Glob.compile pattern).mapError Error.badPattern

/-- The scripts of the settings, each once. -/
def find (settings : Settings) (tree : FileTree) : Except Error Discovery := do
  let rules := ⟨tree, ← compileAll settings.excludePatterns, settings.followLinks⟩
  let sightings ← settings.paths.mapM (Walk.ofPath rules settings.maxDepth)
  let scripts := Walk.distinct tree [] (sightings.flatten.filterMap Walk.Sighting.script?)
  if scripts = [] then throw (.usage "Invalid path: No python scripts found.")
  return ⟨scripts, sightings.flatten.filterMap Walk.Sighting.trouble?⟩

end Discovery

/-- The text of a script. -/
def Script.textAt (tree : FileTree) (path : String) : Except Error String :=
  match tree.read path with
  | .ok text => .ok text
  | .error .denied => .error (.accessDenied path)
  | .error fault => .error (.unreadableScript path fault.failure)

/-- Reads and analyses the script at a path. -/
def Report.ofFile (changelogs : Changelogs) (baseline : Version) (tree : FileTree) (path : String) :
    Except Error Report := do
  Report.ofScript changelogs baseline path (← Script.textAt tree path)

/-- A run over several scripts. -/
structure Batch where
  results : Results := {}
  /-- The errors that did not end the run. -/
  noticed : List Error := []
  /-- The error that ended it. -/
  stopped : Option Error := none

namespace Batch

/-- The results with a script that was skipped. -/
def skip (results : Results) (path : String) (error : Error) : Results :=
  { results with failures := results.failures ++ [⟨path, error.message⟩] }

/-- Adds what came of one script, unless the run has ended. -/
def add (batch : Batch) (path : String) (outcome : Except Error Report) : Batch :=
  match batch.stopped, outcome with
  | some _, _ => batch
  | none, .ok report =>
    { batch with results := { batch.results with reports := batch.results.reports ++ [report] } }
  | none, .error error =>
    if error.isCritical then { batch with stopped := error }
    else
      { batch with results := skip batch.results path error, noticed := batch.noticed ++ [error] }

/-- Analyses scripts. The only script of a run ends it with any error. -/
def ofDiscovery (analyze : String → Except Error Report) (discovery : Discovery) : Batch :=
  let start : Batch :=
    { results := discovery.errors.foldl (fun results (path, error) => skip results path error) {} }
  match discovery.scripts with
  | [script] =>
    match analyze script with
    | .ok report => start.add script (.ok report)
    | .error error => { start with stopped := error }
  | scripts => scripts.foldl (fun batch script => batch.add script (analyze script)) start

/-- The lines shown for the errors that did not end the run. -/
def notices (batch : Batch) : String :=
  String.join (batch.noticed.filterMap Error.notice?)

/-- The results, unless the run was ended. -/
def outcome (batch : Batch) : Except Error Results :=
  match batch.stopped with
  | some error => .error error
  | none => .ok batch.results

end Batch

end VersionFloor
