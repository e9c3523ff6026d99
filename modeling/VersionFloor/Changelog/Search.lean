import VersionFloor.Changelog

set_option autoImplicit false

namespace VersionFloor

/-- What happened to a feature in a version. -/
structure Change where
  version : Version
  action : Action
  name : String
deriving DecidableEq

namespace Change

instance : Ord Change where
  compare := compareLex (compareOn version) (compareLex (compareOn action) (compareOn name))

/-- The changes of one feature. -/
def ofEntry (name : String) (r : Requirement) : List Change :=
  Action.all.filterMap fun action =>
    (action.versionOf r).map fun version => ⟨version, action, name⟩

/-- Whether the change is in the version and of the action wanted. -/
def isWanted (version : Option Version) (action : Option Action) (change : Change) : Bool :=
  version.all (change.version = ·) && action.all (change.action = ·)

/-- The wanted changes of a changelog in order. -/
def ofChangelog (changelog : Changelog) (version : Option Version) (action : Option Action) :
    List Change :=
  let changes := changelog.entries.flatMap fun (name, r) => ofEntry name r
  (changes.filter (isWanted version action)).mergeSort fun a b => (compare a b).isLE

end Change

end VersionFloor
