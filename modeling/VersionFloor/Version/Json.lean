import VersionFloor.Error
import VersionFloor.Json.Reader
import VersionFloor.Json.Value

set_option autoImplicit false

namespace VersionFloor.Version

def toJson (v : Version) : Json :=
  .str v.text

/-- Reads a version; a text that is none is refused before the rest is looked at. -/
def ofJson (text : String) : Except Error Version :=
  match Json.Reader.text text.toList with
  | .error fault => .error (.malformedJson (fault.message text))
  | .ok (word, rest) =>
    match parse word with
    | .error fault => .error (.malformedJson (refusal word fault.message))
    | .ok version =>
      match Json.Reader.finish rest with
      | .error fault => .error (.malformedJson (fault.message text))
      | .ok _ => .ok version

end VersionFloor.Version
