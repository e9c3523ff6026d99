import VersionFloor.Cache
import VersionFloor.Glob.Expand

set_option autoImplicit false

namespace VersionFloor.Changelog

/-- The pattern of the files of a folder that are merged. -/
abbrev mergePattern (folder : String) : String :=
  Path.join folder "*.json"

/-- The files of a folder that are merged. -/
def mergeFiles (tree : FileTree) (folder : String) : Except Error (List String) := do
  if ¬tree.isFolder folder then throw (.noSuchPath folder)
  let found ← (Glob.expand tree (mergePattern folder)).mapError Error.badPattern
  return (found.filter tree.isFile).mergeSort Path.isLE

/-- Adds the changelog of a file. -/
def mergeFile (tree : FileTree) (merged : Changelog) (path : String) : Except Error Changelog := do
  match merged.merge (← Changelogs.changelogAt tree path) with
  | (merged, none) => return merged
  | (_, some fault) => throw (.badChangelog path fault)

/-- The changelog of the files of a folder, in the order of their paths, and their number. -/
def mergeFolder (tree : FileTree) (folder : String) : Except Error (Changelog × Nat) := do
  let files ← mergeFiles tree folder
  if files = [] then throw (.badChangelog folder .noFiles)
  return (← files.foldlM (mergeFile tree) Table.empty, files.length)

end VersionFloor.Changelog
