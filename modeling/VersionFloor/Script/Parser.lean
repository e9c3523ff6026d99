import VersionFloor.Script.Token

set_option autoImplicit false

namespace VersionFloor.Script

/-- The tokens still to be read. -/
structure Cursor where
  tokens : List Token
  /-- Where the last token read ended. -/
  last : Nat
  /-- The offset of the text behind the tokens that is no token, if there is one. -/
  failure : Option Nat

/--
A grammar rule; it fails with the offset at fault, which is the start of a token that it cannot use.
A phrase that the grammar allows can still break a rule; that is told once the phrase has ended.
-/
abbrev Parser (α : Type) := StateT Cursor (Except Nat) α

namespace Parser

/-- The next token, none at the end of the script. -/
def peek : Parser (Option Token) := do
  let cursor ← get
  match cursor.tokens, cursor.failure with
  | token :: _, _ => pure (some token)
  | [], some offset => throw offset
  | [], none => pure none

def peekKind : Parser (Option TokenKind) := do
  return (← peek).map (·.kind)

/-- Where the next token starts; at the end of the script, where the last one ended. -/
def position : Parser Nat := do
  match ← peek with
  | some token => pure token.span.start
  | none => return (← get).last

/-- Where the last token read ended. -/
def lastEnd : Parser Nat := do
  return (← get).last

/-- Fails at the next token. -/
def unexpected {α : Type} : Parser α := do
  throw (← position)

/-- Reads the next token, whatever it is. -/
def advance : Parser Unit :=
  modify fun cursor =>
    match cursor.tokens with
    | token :: rest => { cursor with tokens := rest, last := token.span.stop }
    | [] => cursor

/-- The range from `start` to the end of the last token read. -/
def spanFrom (start : Nat) : Parser Span := do
  return ⟨start, ← lastEnd⟩

def isSign (text : String) : Option TokenKind → Bool
  | some (.sign other) => other == text
  | _ => false

def isWord (text : String) : Option TokenKind → Bool
  | some (.word other) => other == text
  | _ => false

def atSign (text : String) : Parser Bool := do
  return isSign text (← peekKind)

def atWord (text : String) : Parser Bool := do
  return isWord text (← peekKind)

/-- Reads the sign `text` if it is next. -/
def acceptSign (text : String) : Parser Bool := do
  if ← atSign text then
    advance
    pure true
  else pure false

/-- Reads the word `text` if it is next. -/
def acceptWord (text : String) : Parser Bool := do
  if ← atWord text then
    advance
    pure true
  else pure false

def expectSign (text : String) : Parser Unit := do
  unless ← acceptSign text do unexpected

def expectWord (text : String) : Parser Unit := do
  unless ← acceptWord text do unexpected

def atNewline : Parser Bool := do
  match ← peekKind with
  | some .newline => pure true
  | _ => pure false

def expectNewline : Parser Unit := do
  match ← peekKind with
  | some .newline => advance
  | _ => unexpected

def expectIndent : Parser Unit := do
  match ← peekKind with
  | some .indent => advance
  | _ => unexpected

def atDedent : Parser Bool := do
  match ← peekKind with
  | some .dedent => pure true
  | _ => pure false

def expectDedent : Parser Unit := do
  if ← atDedent then advance else unexpected

def atName : Parser Bool := do
  match ← peekKind with
  | some (.name _) => pure true
  | _ => pure false

def identifier : Parser String := do
  match ← peekKind with
  | some (.name id) =>
    advance
    pure id
  | _ => unexpected

/--
Fails for a reason beyond the grammar: at `offset` when the next token may stand behind the phrase
just read, otherwise at that token.
-/
def reject {α : Type} (follows : TokenKind → Bool) (offset : Nat) : Parser α := do
  if (← peekKind).all follows then throw offset else unexpected

/-- Repeats `step` as long as it answers, at most `bound` times. -/
def repeated {α : Type} (step : Parser (Option α)) : Nat → Parser (List α)
  | 0 => pure []
  | bound + 1 => do
    match ← step with
    | none => pure []
    | some a => return a :: (← repeated step bound)

/-- Carries a value through `step` as long as it answers, at most `bound` times. -/
def iterate {α : Type} (step : α → Parser (Option α)) : Nat → α → Parser α
  | 0, a => pure a
  | bound + 1, a => do
    match ← step a with
    | none => pure a
    | some b => iterate step bound b

/-- One or more elements with the sign `separator` between each two. -/
def separated {α : Type} (bound : Nat) (separator : String) (element : Parser α) :
    Parser (List α) := do
  let first ← element
  let rest ← repeated
    (do if ← acceptSign separator then return some (← element) else pure none) bound
  return first :: rest

/--
One or more elements with commas between them. After a comma the list goes on when the next token
starts an element; otherwise that comma ends it, and the second answer is true.
-/
def commaList {α : Type} (bound : Nat) (starts : TokenKind → Bool) (element : Parser α) :
    Parser (List α × Bool) := do
  let first ← element
  let (elements, trailing) ← iterate (fun (elements, trailing) => do
    if trailing then pure none
    else if ← acceptSign "," then
      if (← peekKind).any starts then return some ((← element) :: elements, false)
      else pure (some (elements, true))
    else pure none) bound ([first], false)
  return (elements.reverse, trailing)

end Parser

end VersionFloor.Script
