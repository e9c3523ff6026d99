set_option autoImplicit false

namespace VersionFloor

/-- A value made of absent values, texts, lists and objects with ordered members. -/
inductive Json
  | null
  | str (text : String)
  | arr (items : List Json)
  | obj (members : List (String × Json))

namespace Json

/-- A character as it stands between the quotes of a text. -/
def escaped (c : Char) : List Char :=
  match c with
  | '"' => ['\\', '"']
  | '\\' => ['\\', '\\']
  | '\x08' => ['\\', 'b']
  | '\x0c' => ['\\', 'f']
  | '\n' => ['\\', 'n']
  | '\r' => ['\\', 'r']
  | '\t' => ['\\', 't']
  | c =>
    if c.toNat < 0x20 then
      ['\\', 'u', '0', '0', Nat.digitChar (c.toNat / 16), Nat.digitChar (c.toNat % 16)]
    else [c]

/-- A text in quotes. -/
def quoted (text : String) : List Char :=
  '"' :: text.toList.flatMap escaped ++ ['"']

/-- How values are laid out. -/
inductive Layout
  | compact
  | indented

namespace Layout

/-- The start of a line at a level of nesting. -/
def lineStart : Layout → Nat → List Char
  | compact, _ => []
  | indented, depth => '\n' :: List.replicate (2 * depth) ' '

/-- What stands between a name and its value. -/
def colon : Layout → List Char
  | compact => [':']
  | indented => [':', ' ']

/-- The parts of a list or an object that stands at `depth`, between its brackets. -/
def bracketed (layout : Layout) (depth : Nat) (left right : Char) (parts : List (List Char)) :
    List Char :=
  if parts.isEmpty then [left, right]
  else
    left :: List.intercalate [','] (parts.map (layout.lineStart (depth + 1) ++ ·))
      ++ layout.lineStart depth ++ [right]

end Layout

/-- The written form of a value that stands at `depth`. -/
def chars (layout : Layout) (depth : Nat) : Json → List Char
  | null => ['n', 'u', 'l', 'l']
  | str text => quoted text
  | arr items =>
    layout.bracketed depth '[' ']' (items.map fun item => chars layout (depth + 1) item)
  | obj members =>
    layout.bracketed depth '\x7b' '\x7d' (members.map fun member =>
      quoted member.1 ++ layout.colon ++ chars layout (depth + 1) member.2)
termination_by value => value
decreasing_by
  · have := List.sizeOf_lt_of_mem ‹_›
    decreasing_tactic
  · have := List.sizeOf_lt_of_mem ‹_›
    cases member
    simp only [Prod.mk.sizeOf_spec, obj.sizeOf_spec] at *
    omega

/-- The value on one line. -/
def compact (value : Json) : String :=
  String.ofList (chars .compact 0 value)

/-- The value with a line for every member. -/
def pretty (value : Json) : String :=
  String.ofList (chars .indented 0 value)

/-- A text that may be absent. -/
def ofOption : Option String → Json
  | none => null
  | some text => str text

/-- An object of the members that are there. -/
def sparse (members : List (String × Option Json)) : Json :=
  obj (members.filterMap fun (name, value) => value.map fun v => (name, v))

end Json

end VersionFloor
