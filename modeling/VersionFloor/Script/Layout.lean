set_option autoImplicit false

namespace VersionFloor.Script

inductive Layout
  | leaf (text : String)
  /-- `tag(payload)`. -/
  | tagged (tag : String) (payload : Layout)
  | record (tag : String) (fields : List (String × Layout))
  | items (elements : List Layout)

namespace Layout

def blanks (count : Nat) : String :=
  String.ofList (List.replicate count ' ')

mutual

/-- The text of a layout whose lines after the first stand `indent` blanks further in. -/
def render (indent : Nat) : Layout → String
  | leaf text => text
  | tagged tag payload =>
    tag ++ "(\n" ++ blanks (indent + 4) ++ payload.render (indent + 4) ++ ",\n" ++ blanks indent ++
      ")"
  | record tag fields =>
    tag ++ " \x7b\n" ++ renderFields (indent + 4) fields ++ blanks indent ++ "\x7d"
  | items [] => "[]"
  | items elements => "[\n" ++ renderItems (indent + 4) elements ++ blanks indent ++ "]"

def renderFields (indent : Nat) : List (String × Layout) → String
  | [] => ""
  | (name, value) :: rest =>
    blanks indent ++ name ++ ": " ++ value.render indent ++ ",\n" ++ renderFields indent rest

def renderItems (indent : Nat) : List Layout → String
  | [] => ""
  | value :: rest => blanks indent ++ value.render indent ++ ",\n" ++ renderItems indent rest

end

/-- An optional value. -/
def option : Option Layout → Layout
  | none => leaf "None"
  | some value => tagged "Some" value

end Layout

end VersionFloor.Script
