import VersionFloor.Glob
import VersionFloor.Requirement
import VersionFloor.Table

set_option autoImplicit false

namespace VersionFloor

/-- The requirements of features, each under its own name. -/
abbrev Changelog := Table Requirement

/-- The kinds of features, with a changelog each. -/
inductive Category
  | language
  | modules
  | functions
  | exceptions
deriving DecidableEq

namespace Category

def all : List Category :=
  [language, modules, functions, exceptions]

def name : Category → String
  | language => "language"
  | modules => "modules"
  | functions => "functions"
  | exceptions => "exceptions"

/-- The file of the category in a directory of changelogs. -/
def fileName (category : Category) : String :=
  s!"{category.name}.json"

/--
The category of a name in any case; no letter outside ASCII has one of these names' letters as lower
case.
-/
def ofName? (text : String) : Option Category :=
  all.find? (·.name = text.toLower)

def refusal (text : String) : String :=
  s!"Invalid category: {text} (valid categories: language, modules, functions, exceptions)"

end Category

/-- What can happen to a feature in a version. -/
inductive Action
  | added
  | deprecated
  | removed
deriving DecidableEq, Ord

namespace Action

def all : List Action :=
  [added, deprecated, removed]

def name : Action → String
  | added => "added"
  | deprecated => "deprecated"
  | removed => "removed"

def ofName? (text : String) : Option Action :=
  all.find? (·.name = text)

def refusal (text : String) : String :=
  s!"Invalid action: '{text}' (valid actions: added, deprecated, removed)"

/-- The version in which the action happened to the feature. -/
def versionOf (action : Action) (r : Requirement) : Option Version :=
  match action with
  | added => r.added
  | deprecated => r.deprecated
  | removed => r.removed

end Action

namespace Changelog

/-- Why there is no changelog. -/
inductive Fault
  | unreadable (reason : String)
  | malformed (reason : String)
  | entry (name : String) (fault : Record.Fault)
  | duplicate (name : String)
  | noFiles
deriving DecidableEq

def Fault.message : Fault → String
  | unreadable reason => reason
  | malformed reason => reason
  | entry name fault => s!"entry '{name}': {fault.message}"
  | duplicate name => s!"duplicate entry '{name}'"
  | noFiles => "no JSON files found"

/-- The changelog of requirements, which take the names they stand under. -/
def ofEntries (entries : List (String × Requirement)) : Changelog :=
  Table.ofList (entries.map fun (name, r) => (name, r.withName name))

/-- The requirement of a named record. -/
def checked (entry : String × Record) : Except Fault (String × Requirement) :=
  match entry.2.toRequirement entry.1 with
  | .ok r => .ok (entry.1, r)
  | .error fault => .error (.entry entry.1 fault)

/-- The changelog of records, or the fault of the first record that has one. -/
def ofRecords (records : List (String × Record)) : Except Fault Changelog :=
  (records.mapM checked).map Table.ofList

/-- The entries as records. -/
def records (changelog : Changelog) : List (String × Record) :=
  changelog.entries.map fun (name, r) => (name, Record.ofRequirement r)

/-- Whether an entry mentions the version wanted and has the action wanted. -/
def isWanted (version : Option Version) (action : Option Action) (r : Requirement) : Bool :=
  version.all r.mentions && action.all fun a => (a.versionOf r).isSome

/-- The entries whose name matches the pattern and that are wanted. -/
def find (changelog : Changelog) (pattern : String) (version : Option Version)
    (action : Option Action) : Except Glob.Fault Changelog := do
  let glob ← Glob.compile pattern
  return changelog.filter fun name r => glob.accepts name && isWanted version action r

/--
Adds the entries of another changelog. At the first name that is taken it stops: the entries before
that one have been added.
-/
def merge (changelog other : Changelog) : Changelog × Option Fault :=
  let (extended, taken) := Table.extend changelog other.entries
  (extended, taken.map .duplicate)

end Changelog

end VersionFloor
