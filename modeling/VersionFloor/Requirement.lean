import VersionFloor.Version

set_option autoImplicit false

namespace VersionFloor

/-- The life of one feature. -/
structure Requirement where
  name : Option String := none
  added : Option Version := none
  deprecated : Option Version := none
  removed : Option Version := none
  note : Option String := none
  /-- The symbols that share this entry, if it stands for a group. -/
  items : Option (List String) := none
  populated : added.isSome ∨ deprecated.isSome ∨ removed.isSome := by simp
deriving DecidableEq

namespace Requirement

/-- What is said of a feature without any version. -/
def refusal (name : String) : String :=
  s!"Invalid requirement '{name}': no added, deprecated or removed version"

/-- A requirement of three versions, if there is one among them. -/
def ofVersions? (added deprecated removed : Option Version) : Option Requirement :=
  if populated : added.isSome ∨ deprecated.isSome ∨ removed.isSome then
    some { added, deprecated, removed, populated }
  else none

/-- The requirement of a feature that was added and is there to stay. -/
def addedIn (version : Version) : Requirement :=
  { added := some version }

def withName (r : Requirement) (name : String) : Requirement :=
  { r with name := some name }

def withNote (r : Requirement) (note : String) : Requirement :=
  { r with note := some note }

def withItems (r : Requirement) (items : List String) : Requirement :=
  { r with items := some items }

/-- The symbols of the group; a feature that is no group has none. -/
def itemList (r : Requirement) : List String :=
  r.items.getD []

def hasItem (r : Requirement) (item : String) : Bool :=
  r.itemList.contains item

/-- Deprecated and removed features are warned about. -/
def isWarning (r : Requirement) : Bool :=
  r.deprecated.isSome || r.removed.isSome

/-- Whether one of the three versions is `version`. -/
def mentions (r : Requirement) (version : Version) : Bool :=
  r.added = some version || r.deprecated = some version || r.removed = some version

/-- Versions first, then name, note and items; an absent field is least. -/
instance : Ord Requirement where
  compare := compareLex
    (compareLex (compareOn added) (compareLex (compareOn deprecated) (compareOn removed)))
    (compareLex (compareOn name) (compareLex (compareOn note) (compareOn items)))

end Requirement

/-- What is known of a feature before its versions are checked. -/
structure Record where
  added : Option String := none
  deprecated : Option String := none
  removed : Option String := none
  note : Option String := none
  items : Option (List String) := none
deriving DecidableEq

/-- Why a record is no requirement. -/
inductive Record.Fault
  | version (text : String) (fault : Version.Fault)
  | unpopulated (name : String)
deriving DecidableEq

def Record.Fault.message : Record.Fault → String
  | version text fault => Version.refusal text fault.message
  | unpopulated name => Requirement.refusal name

namespace Record

/-- The version of a field that may be absent. -/
def version? : Option String → Except Fault (Option Version)
  | none => .ok none
  | some text =>
    match Version.parse text with
    | .ok version => .ok (some version)
    | .error fault => .error (.version text fault)

/-- The requirement of the feature `name`, or the first fault of the record. -/
def toRequirement (record : Record) (name : String) : Except Fault Requirement := do
  let added ← version? record.added
  let deprecated ← version? record.deprecated
  let removed ← version? record.removed
  match Requirement.ofVersions? added deprecated removed with
  | none => throw (.unpopulated name)
  | some r => return { r with name := some name, note := record.note, items := record.items }

/-- The requirement of a feature whose name is not known. -/
def toUnnamed (record : Record) : Except Fault Requirement :=
  (record.toRequirement "<unnamed>").map fun r => { r with name := none }

def ofRequirement (r : Requirement) : Record where
  added := r.added.map Version.text
  deprecated := r.deprecated.map Version.text
  removed := r.removed.map Version.text
  note := r.note
  items := r.items

end Record

end VersionFloor
