import VersionFloor.FileTree
import VersionFloor.Glob

set_option autoImplicit false

namespace VersionFloor.Glob

/-- The text of a pattern without wildcards. -/
def literal? (glob : Glob) : Option String :=
  (glob.tokens.mapM fun
    | Token.char c => some c
    | _ => none).map String.ofList

def isRecursive (glob : Glob) : Bool :=
  glob.tokens.contains .anyComponents

/--
The path of a name in a folder; names in the current folder stand for themselves, however it is
written.
-/
def below (path name : String) : String :=
  if Path.parts path = [.here] then name else Path.join path name

/-- The special names that a pattern which starts with a dot can match. -/
def dotNames (glob : Glob) : List String :=
  if glob.tokens.head? = some (.char '.') then [".", ".."].filter glob.accepts else []

/-- The names of the folder at a path. -/
def namesAt (tree : FileTree) (path : String) : List String :=
  match tree.look path with
  | .ok (place, .folder) => tree.names place
  | _ => []

mutual

/-- The paths below `path` that match the pieces. -/
def expandBelow (tree : FileTree) (path : String) : Nat → List Glob → List String
  | 0, _ => []
  | _, [] => [path]
  | fuel + 1, glob :: rest =>
    match glob.literal? with
    | some name =>
      let next := below path name
      let isThere := if name = "." ∨ name = ".." then tree.isFolder path else tree.isTaken next
      if isThere then expandBelow tree next fuel rest else []
    | none =>
      (namesAt tree path).flatMap (fun name => expandAt tree (below path name) fuel (glob :: rest))
        ++ if tree.isFolder path then
          glob.dotNames.flatMap fun name => expandBelow tree (Path.join path name) fuel rest
        else []

/-- The paths that match the pieces, the first of which is tried on the name of `path`. -/
def expandAt (tree : FileTree) (path : String) : Nat → List Glob → List String
  | 0, _ => []
  | _, [] => []
  | fuel + 1, glob :: rest =>
    if glob.isRecursive then
      let rest := rest.dropWhile isRecursive
      let deeper := if tree.isFolder path then expandBelow tree path fuel (glob :: rest) else []
      match rest with
      | [] => if tree.isFolder path then path :: deeper else []
      | next :: later => deeper ++ matchAt tree path fuel next later
    else matchAt tree path fuel glob rest

/-- The paths that match the pieces, where `path` has the name that the first must accept. -/
def matchAt (tree : FileTree) (path : String) : Nat → Glob → List Glob → List String
  | 0, _, _ => []
  | fuel + 1, glob, rest =>
    match Path.fileName? path with
    | none => []
    | some name =>
      if glob.accepts name then
        match rest with
        | [] => [path]
        | _ => expandBelow tree path fuel rest
      else []

end

/-- The pieces of a pattern after the root, the last one dropped if it is empty. -/
def pieces (pattern : List Char) : List (List Char) :=
  let all := Path.pieces (pattern.dropWhile (· = '/'))
  if all.getLast? = some [] then all.dropLast else all

/-- The paths of the files and folders that match a pattern. -/
def expand (tree : FileTree) (pattern : String) : Except Fault (List String) := do
  let _ ← compile pattern
  let globs ← (pieces pattern.toList).mapM fun piece => compile (String.ofList piece)
  let root := if Path.isAbsolute pattern then "/" else "."
  return expandBelow tree root (3 * (tree.reach + globs.length + 1)) globs

end VersionFloor.Glob
