import VersionFloor.Changelogs.Builtin
import VersionFloor.FileTree

set_option autoImplicit false

namespace VersionFloor

namespace Changelogs

/-- The changelog of a file. -/
def changelogAt (tree : FileTree) (path : String) : Except Error Changelog :=
  match tree.read path with
  | .ok text => Changelog.ofText path text
  | .error fault => .error (.badChangelog path (.unreadable fault.message))

/-- The changelogs of a folder, or the built-in ones. -/
def ofSource (tree : FileTree) : Option String → Except Error Changelogs
  | some folder => load fun category => changelogAt tree (Path.join folder category.fileName)
  | none => .ok builtin

end Changelogs

/--
The changelogs loaded so far, and how often they were found and not found. What was loaded stays
until the cache is cleared, whatever the files then hold; a load that fails leaves nothing behind.
-/
structure Cache where
  entries : List (Option (List Path.Part) × Changelogs) := []
  hits : Nat := 0
  misses : Nat := 0

namespace Cache

/-- Changelogs are kept under the parts of their path; the built-in ones have none. -/
abbrev Key := Option (List Path.Part)

def key (source : Option String) : Key :=
  source.map Path.parts

/-- The changelogs under a key. -/
def lookup (cache : Cache) (key : Key) : Option Changelogs :=
  (cache.entries.find? (·.1 = key)).map (·.2)

/-- Keeps changelogs under a key, unless there are some; the second part is what is then there. -/
def keep (cache : Cache) (key : Key) (loaded : Changelogs) : Cache × Changelogs :=
  match cache.lookup key with
  | some known => (cache, known)
  | none => ({ cache with entries := cache.entries ++ [(key, loaded)] }, loaded)

/-- The changelogs under a key, which are loaded if they are not there. -/
def get (cache : Cache) (key : Key) (load : Except Error Changelogs) :
    Cache × Except Error Changelogs :=
  match cache.lookup key with
  | some known => ({ cache with hits := cache.hits + 1 }, .ok known)
  | none =>
    let missed := { cache with misses := cache.misses + 1 }
    match load with
    | .error error => (missed, .error error)
    | .ok loaded =>
      let (kept, changelogs) := missed.keep key loaded
      (kept, .ok changelogs)

def clear (_ : Cache) : Cache := {}

def size (cache : Cache) : Nat :=
  cache.entries.length

/-- The changelogs of a folder, or the built-in ones, through the cache. -/
def source (cache : Cache) (tree : FileTree) (folder : Option String) :
    Cache × Except Error Changelogs :=
  cache.get (key folder) (Changelogs.ofSource tree folder)

end Cache

end VersionFloor
