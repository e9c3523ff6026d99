import VersionFloor.Number.Shortest
import VersionFloor.Text.Quoted

set_option autoImplicit false

namespace VersionFloor.Json

/-- A value of the wrong kind. -/
inductive Found
  | null
  | boolean (value : Bool)
  | integer (value : Int)
  | floating (value : Float)
  | text (value : String)
  | list
  | object

def Found.message : Found → String
  | null => "null"
  | boolean value => s!"boolean `{value}`"
  | integer value => s!"integer `{value}`"
  | floating value => s!"floating point `{Number.floatText (.mixed (-5) true) value}`"
  | text value => s!"string {Text.quoted value}"
  | list => "sequence"
  | object => "map"

/-- What is wrong. -/
inductive Cause
  | endOfValue
  | endOfText
  | endOfList
  | endOfObject
  | expectedValue
  | expectedWord
  | expectedColon
  | expectedListEnd
  | expectedObjectEnd
  | keyNotText
  | trailingComma
  | trailingCharacters
  | controlCharacter
  | invalidEscape
  | unexpectedEndOfHex
  | loneSurrogate
  | invalidNumber
  | numberOutOfRange
  | wrongKind (found : Found) (wanted : String)
  | unknownField (name : String) (known : List String)
  | duplicateField (name : String)

def Cause.message : Cause → String
  | endOfValue => "EOF while parsing a value"
  | endOfText => "EOF while parsing a string"
  | endOfList => "EOF while parsing a list"
  | endOfObject => "EOF while parsing an object"
  | expectedValue => "expected value"
  | expectedWord => "expected ident"
  | expectedColon => "expected `:`"
  | expectedListEnd => "expected `,` or `]`"
  | expectedObjectEnd => "expected `,` or `\x7d`"
  | keyNotText => "key must be a string"
  | trailingComma => "trailing comma"
  | trailingCharacters => "trailing characters"
  | controlCharacter => "control character (\\u0000-\\u001F) found while parsing a string"
  | invalidEscape => "invalid escape"
  | unexpectedEndOfHex => "unexpected end of hex escape"
  | loneSurrogate => "lone leading surrogate in hex escape"
  | invalidNumber => "invalid number"
  | numberOutOfRange => "number out of range"
  | wrongKind found wanted => s!"invalid type: {found.message}, expected {wanted}"
  | unknownField name known =>
    let names := ", ".intercalate (known.map fun field => s!"`{field}`")
    s!"unknown field `{name}`, expected one of {names}"
  | duplicateField name => s!"duplicate field `{name}`"

/-- A cause, and the number of bytes from its place to the end of the text. -/
structure Fault where
  cause : Cause
  remaining : Nat

/-- The bytes of the characters in UTF-8. -/
def byteCount (cs : List Char) : Nat :=
  cs.foldl (fun count c => count + c.utf8Size) 0

/-- Line and column, the column in bytes, `offset` bytes after the place at `line` and `column`. -/
def place (offset line column : Nat) : List Char → Nat × Nat
  | [] => (line, column)
  | c :: rest =>
    if c.utf8Size ≤ offset then
      if c = '\n' then place (offset - c.utf8Size) (line + 1) 0 rest
      else place (offset - c.utf8Size) line (column + c.utf8Size) rest
    else (line, column + offset)

/-- The cause with its place in the text. -/
def Fault.message (fault : Fault) (text : String) : String :=
  let cs := text.toList
  let (line, column) := place (byteCount cs - fault.remaining) 1 0 cs
  s!"{fault.cause.message} at line {line} column {column}"

end VersionFloor.Json
