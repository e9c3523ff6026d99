set_option autoImplicit false

namespace VersionFloor.Output

/-- What a painted text is there for. -/
inductive Role
  | path
  | result
  | caution
  | failure
  | version
  | note
deriving DecidableEq

/-- The attributes of the role: bold, bold in a colour, a colour, or dimmed. -/
def Role.code : Role → String
  | path => "1"
  | result => "1;32"
  | caution => "1;33"
  | failure => "1;31"
  | version => "36"
  | note => "2"

def paint (colors : Bool) (role : Role) (text : String) : String :=
  if colors then "\x1b[" ++ role.code ++ "m" ++ text ++ "\x1b[0m" else text

/-- The text with blanks up to `width` characters. -/
def padded (width : Nat) (text : String) : String :=
  text ++ String.ofList (List.replicate (width - text.length) ' ')

end VersionFloor.Output
