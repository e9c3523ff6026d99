import VersionFloor.Changelog.Search
import VersionFloor.Output.Paint

set_option autoImplicit false

namespace VersionFloor.Output

def changeLine (version action name : String) : String :=
  padded 8 version ++ " " ++ padded 13 action ++ " " ++ name ++ "\n"

def changesText (changes : List Change) : String :=
  let table :=
    if changes.isEmpty then ""
    else
      changeLine "Version" "Action" "Name"
        ++ String.join (changes.map fun c => changeLine c.version.text c.action.name c.name)
  let noun := if changes.length = 1 then "row." else "rows."
  table ++ "Found " ++ toString changes.length ++ " " ++ noun ++ "\n"

end VersionFloor.Output
