import VersionFloor.Error
import VersionFloor.Path

set_option autoImplicit false

namespace VersionFloor

/-- The names from the root down, no link among them. -/
abbrev Place := List String

namespace FileTree

/-- Why a file or folder cannot be used. -/
inductive Fault
  | missing
  | denied
  | occupied
  | notFolder
  | isFolder
  | tooManyLinks
  | notText
  | other (text : String)
deriving DecidableEq

def Fault.message : Fault → String
  | missing => "No such file or directory (os error 2)"
  | denied => "Permission denied (os error 13)"
  | occupied => "File exists (os error 17)"
  | notFolder => "Not a directory (os error 20)"
  | isFolder => "Is a directory (os error 21)"
  | tooManyLinks => "Too many levels of symbolic links (os error 40)"
  | notText => "stream did not contain valid UTF-8"
  | other text => text

def Fault.failure (fault : Fault) : IoFailure :=
  ⟨fault.message, fault = .denied⟩

/-- What stands at a place. -/
inductive Entry
  | file (content : Except Fault String)
  | link (target : String)
  | folder

end FileTree

/--
A snapshot of files: what stands at which place, and the folder that relative paths start from.
-/
structure FileTree where
  entries : List (Place × FileTree.Entry) := []
  /-- Where relative paths start. -/
  current : Place := []

namespace FileTree

/-- The entry at a place; the root is a folder. -/
def entry? (tree : FileTree) (place : Place) : Option Entry :=
  if place = [] then some .folder
  else (tree.entries.find? (·.1 = place)).map (·.2)

/-- The snapshot with the entry at a place put in or replaced. -/
def put (tree : FileTree) (place : Place) (entry : Entry) : FileTree :=
  if tree.entries.any (·.1 = place) then
    { tree with
      entries := tree.entries.map fun known => if known.1 = place then (place, entry) else known }
  else { tree with entries := tree.entries ++ [(place, entry)] }

/-- The names in a folder, sorted. -/
def names (tree : FileTree) (folder : Place) : List String :=
  (tree.entries.filterMap fun (place, _) =>
    if place ≠ [] ∧ place.dropLast = folder then place.getLast? else none).mergeSort (· ≤ ·)

/--
The names to go through; a slash at the end is an empty name, which asks for a folder as a dot does.
-/
def steps (path : String) : List String :=
  let pieces := Path.pieces path.toList
  let names := (pieces.filter (· ≠ [])).map String.ofList
  if 1 < pieces.length ∧ pieces.getLast? = some [] then names ++ [""] else names

/-- Where the names of a path are counted from. -/
def start (path : String) (folder : Place) : Place :=
  if Path.isAbsolute path then [] else folder

/-- The end of a path. -/
inductive Target
  | found (place : Place) (entry : Entry)
  /-- Nothing stands there, but the folder for it does. -/
  | vacant (place : Place)

/-- The number of links that a path may lead through. -/
def linkLimit : Nat := 40

/-- What the end of a path is wanted for. -/
inductive Purpose
  /-- To look at what is there; a link at the end is followed. -/
  | look
  /-- To look at the last name itself, be it a link. -/
  | lookAtLink
  /-- To write a file there; a link at the end is followed, and a slash at the end makes it a
  folder. -/
  | write
deriving DecidableEq

/-- Follows names from a folder on, through at most `links` links. -/
def follow (tree : FileTree) (purpose : Purpose) (links : Nat) (folder : Place) :
    List String → Except Fault Target
  | [] => .ok (.found folder .folder)
  | name :: rest =>
    if purpose = .write ∧ rest = [""] then .error .isFolder
    else if name = "" ∨ name = "." then tree.follow purpose links folder rest
    else if name = ".." then tree.follow purpose links folder.dropLast rest
    else
      let place := folder ++ [name]
      match tree.entry? place with
      | none => if rest = [] then .ok (.vacant place) else .error .missing
      | some .folder => tree.follow purpose links place rest
      | some (.file content) =>
        if rest = [] then .ok (.found place (.file content)) else .error .notFolder
      | some (.link target) =>
        if rest = [] ∧ purpose = .lookAtLink then .ok (.found place (.link target))
        else
          match links with
          | 0 => .error .tooManyLinks
          | links + 1 => tree.follow purpose links (start target folder) (steps target ++ rest)
termination_by names => (links, names.length)

/-- Where a path leads. -/
def target (tree : FileTree) (purpose : Purpose) (path : String) : Except Fault Target :=
  if path = "" then .error .missing
  else tree.follow purpose linkLimit (start path tree.current) (steps path)

/-- What stands at the end of a path, and where. -/
def look (tree : FileTree) (path : String) : Except Fault (Place × Entry) := do
  match ← tree.target .look path with
  | .found place entry => return (place, entry)
  | .vacant _ => throw .missing

def contains (tree : FileTree) (path : String) : Bool :=
  match tree.look path with
  | .ok _ => true
  | .error _ => false

def isFile (tree : FileTree) (path : String) : Bool :=
  match tree.look path with
  | .ok (_, .file _) => true
  | _ => false

def isFolder (tree : FileTree) (path : String) : Bool :=
  match tree.look path with
  | .ok (_, .folder) => true
  | _ => false

/-- Whether there is something under the last name of a path, be it a link to nowhere. -/
def isTaken (tree : FileTree) (path : String) : Bool :=
  match tree.target .lookAtLink path with
  | .ok (.found _ _) => true
  | _ => false

/-- The place of a path without links, by which two paths are known to be one. -/
def place? (tree : FileTree) (path : String) : Option Place :=
  match tree.look path with
  | .ok (place, _) => some place
  | .error _ => none

/-- The text of a file. -/
def read (tree : FileTree) (path : String) : Except Fault String := do
  match ← tree.look path with
  | (_, .file content) => content
  | (_, .folder) => throw .isFolder
  | (_, .link _) => throw .tooManyLinks

/-- Writes a file, new or not. -/
def write (tree : FileTree) (path text : String) : Except Fault FileTree := do
  match ← tree.target .write path with
  | .vacant place => return tree.put place (.file (.ok text))
  | .found place (.file _) => return tree.put place (.file (.ok text))
  | .found _ .folder => throw .isFolder
  | .found _ (.link _) => throw .tooManyLinks

/-- Makes one folder. -/
def makeFolder (tree : FileTree) (path : String) : Except Fault FileTree := do
  match ← tree.target .lookAtLink (Path.withoutSlash path) with
  | .vacant place => return tree.put place .folder
  | .found _ _ => throw .occupied

/-- A folder that may be there already. -/
def ensureFolder (tree : FileTree) (path : String) : Except Fault FileTree :=
  match tree.makeFolder path with
  | .ok made => .ok made
  | .error fault => if tree.isFolder path then .ok tree else .error fault

/--
Makes a folder and the folders above it that are missing, of which there are fewer than `fuel`.
-/
def makeFoldersWithin (tree : FileTree) (path : String) : Nat → Except Fault FileTree
  | 0 => .ok tree
  | fuel + 1 =>
    if path = "" then .ok tree
    else
      match tree.makeFolder path, Path.parent? path with
      | .error .missing, some parent => do
        (← tree.makeFoldersWithin parent fuel).ensureFolder path
      | _, _ => tree.ensureFolder path

/-- Makes a folder and the folders above it that are missing. -/
def makeFolders (tree : FileTree) (path : String) : Except Fault FileTree :=
  tree.makeFoldersWithin path (path.length + 1)

/--
More names than any path can go down through: between two links each name leads one level down, and
no place is longer than the longest one.
-/
def reach (tree : FileTree) : Nat :=
  (linkLimit + 1) * (tree.entries.foldl (fun most known => Nat.max most known.1.length) 0 + 1)

end FileTree

end VersionFloor
