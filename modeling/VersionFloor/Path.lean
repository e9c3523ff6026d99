set_option autoImplicit false

namespace VersionFloor.Path

/-- The pieces between slashes, empty ones included; there is always one. -/
def pieces : List Char → List (List Char)
  | [] => [[]]
  | c :: rest =>
    match c, pieces rest with
    | '/', found => [] :: found
    | c, first :: found => (c :: first) :: found
    | c, [] => [[c]]

/-- The path of pieces. -/
def joined : List (List Char) → List Char
  | [] => []
  | [piece] => piece
  | piece :: rest => piece ++ '/' :: joined rest

/-- One part of a path, in the order by which paths are sorted. -/
inductive Part
  | root
  | here
  | up
  | name (text : String)
deriving DecidableEq

namespace Part

def rank : Part → Nat
  | root => 0
  | here => 1
  | up => 2
  | name _ => 3

def text : Part → String
  | root => "/"
  | here => "."
  | up => ".."
  | name text => text

instance : Ord Part where
  compare := compareLex (compareOn rank) (compareOn text)

end Part

/-- The part of a piece after the first. -/
def laterPart? (piece : List Char) : Option Part :=
  if piece = [] ∨ piece = ['.'] then none
  else if piece = ['.', '.'] then some .up
  else some (.name (String.ofList piece))

/-- The part of the first piece: an empty one before a slash is the root. -/
def firstPart? (piece : List Char) (isOnly : Bool) : Option Part :=
  if piece = [] then if isOnly then none else some .root
  else if piece = ['.'] then some .here
  else laterPart? piece

/-- The parts of a path; empty names and single dots after the first do not count. -/
def parts (path : String) : List Part :=
  match pieces path.toList with
  | [] => []
  | first :: rest => (firstPart? first rest.isEmpty).toList ++ rest.filterMap laterPart?

def isAbsolute (path : String) : Bool :=
  path.toList.head? = some '/'

/-- The order of paths: part by part. -/
def isLE (a b : String) : Bool :=
  (compareOn parts a b).isLE

/-- The last name; a path that ends in the root or in dots has none. -/
def fileName? (path : String) : Option String :=
  match (parts path).getLast? with
  | some (.name text) => some text
  | _ => none

/-- What follows the last dot of the last name, unless nothing stands before that dot. -/
def extension? (path : String) : Option String := do
  let backwards := (← fileName? path).toList.reverse
  match backwards.dropWhile (· ≠ '.') with
  | _ :: _ :: _ => some (String.ofList (backwards.takeWhile (· ≠ '.')).reverse)
  | _ => none

/-- The pieces in reverse without those at the end that are no part. -/
def trimmed (backwards : List (List Char)) : List (List Char) :=
  match backwards with
  | [] => []
  | [first] => [first]
  | piece :: rest => if (laterPart? piece).isNone then trimmed rest else backwards

/-- The path without its last part, unless it has none or is the root. -/
def parent? (path : String) : Option String :=
  if parts path = [] ∨ parts path = [.root] then none
  else
    match trimmed (trimmed (pieces path.toList).reverse).tail with
    | [[]] => some "/"
    | backwards => some (String.ofList (joined backwards.reverse))

/-- The path without the slashes at its end, unless it is the root. -/
def withoutSlash (path : String) : String :=
  match path.toList.reverse.dropWhile (· = '/') with
  | [] => path
  | backwards => String.ofList backwards.reverse

/-- The path of `other` as seen from `base`. -/
def join (base other : String) : String :=
  if isAbsolute other ∨ base = "" then other
  else if base.toList.getLast? = some '/' then base ++ other
  else base ++ "/" ++ other

end VersionFloor.Path
