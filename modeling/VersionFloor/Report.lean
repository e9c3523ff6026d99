import VersionFloor.Analysis.State
import VersionFloor.Script.Read

set_option autoImplicit false

namespace VersionFloor

/-- The requirements found in a script. -/
structure Report where
  path : String
  version : Version
  language : Table Requirement
  modules : Table Requirement

namespace Report

def ofState (path : String) (s : Analysis.State) : Report :=
  ⟨path, s.version, s.language, s.modules⟩

def hasRequirements (r : Report) : Bool :=
  !r.language.entries.isEmpty || !r.modules.entries.isEmpty

/-- The requirement under a name, of the language before the modules. -/
def requirement? (r : Report) (name : String) : Option Requirement :=
  (r.language.get? name).or (r.modules.get? name)

/-- The order of a listing: by the version of addition, then by name. -/
def listed (a b : String × Requirement) : Bool :=
  (compareLex (compareOn fun entry : String × Requirement => entry.2.added)
  (compareOn (·.1)) a b).isLE

/-- The features that were added in some version, in order. -/
def required (table : Table Requirement) : List (String × Requirement) :=
  (table.entries.filter fun entry => entry.2.added.isSome).mergeSort listed

/-- The features that are deprecated or removed, in order. -/
def warnings (table : Table Requirement) : List (String × Requirement) :=
  (table.entries.filter fun entry => entry.2.isWarning).mergeSort listed

end Report

/-- A script that was skipped, and why. -/
structure Failure where
  path : String
  message : String
deriving DecidableEq

/-- What came of a run over many scripts. -/
structure Results where
  reports : List Report := []
  failures : List Failure := []

namespace Results

/-- The latest version that a script needs. -/
def maxVersion (r : Results) : Option Version :=
  match r.reports with
  | [] => none
  | first :: rest => some (rest.foldl (fun v report => v.max report.version) first.version)

end Results

/-- The statements of a script, or the error that names the line at fault. -/
def Script.read (path text : String) : Except Error (List Script.Stmt) :=
  match Script.parse text with
  | .ok body => .ok body
  | .error offset => .error (.invalidScript path (Script.lineOfOffset text offset) "invalid syntax")

/-- Reads and analyses one script. -/
def Report.ofScript (changelogs : Changelogs) (baseline : Version) (path text : String) :
    Except Error Report := do
  let body ← Script.read path text
  match Analysis.analyze changelogs (.fresh baseline) body with
  | (s, none) => return ofState path s
  | (_, some feature) => throw (.missingFeature feature.key)

end VersionFloor
