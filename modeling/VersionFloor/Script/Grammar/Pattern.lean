import VersionFloor.Script.Grammar.Expr

set_option autoImplicit false

namespace VersionFloor.Script.Grammar

open VersionFloor.Script.Parser

/-- The rules that a pattern uses for what is inside it. -/
structure InnerPattern where
  exprs : Inner
  pattern : Parser Pattern

/-- Whether a token can start a pattern. -/
def startsPattern : TokenKind → Bool
  | .name _ | .int _ | .float _ | .imaginary _ | .string _ => true
  | .word text => text ∈ ["None", "True", "False"]
  | .sign text => text ∈ ["-", "*", "(", "[", "\x7b"]
  | _ => false

/-- Whether a token can stand behind a pattern that may have a name given to it. -/
def followsPattern : TokenKind → Bool
  | .sign text => text ∈ [")", "]", "\x7d", ",", ":"]
  | .word text => text == "if"
  | _ => false

/-- Whether a token can stand behind an alternative of a pattern. -/
def followsAlternative (kind : TokenKind) : Bool :=
  followsPattern kind || isSign "|" (some kind) || isWord "as" (some kind)

/-- A number without a sign. -/
def numberAtom : Parser Expr := do
  let start ← position
  let literal (value : Literal) : Parser Expr := do
    advance
    return .constant (← spanFrom start) value false
  match ← peekKind with
  | some (.int value) => literal (.int value)
  | some (.float value) => literal (.float value)
  | some (.imaginary value) => literal (.imaginary value)
  | _ => unexpected

/-- A number, perhaps negative, perhaps with an imaginary part added or subtracted. -/
def patternNumber : Parser Expr := do
  let start ← position
  let first : Expr ←
    if ← acceptSign "-" then
      let operand ← numberAtom
      pure (.unary (← spanFrom start) .uSub operand)
    else numberAtom
  let add? : Option Operator :=
    match ← peekKind with
    | some (.sign "+") => some .add
    | some (.sign "-") => some .sub
    | _ => none
  match add? with
  | some op =>
    advance
    let right ← numberAtom
    return .binary (← spanFrom start) first op right
  | none => pure first

/-- The attributes behind a name, which starts at `start`. -/
def patternAttributes (bound start : Nat) (first : Expr) : Parser Expr :=
  iterate (fun e => do
    if ← acceptSign "." then
      let attr ← identifier
      return some (.attribute (← spanFrom start) e attr .load)
    else pure none) bound first

def isName : Expr → Bool
  | .name .. => true
  | _ => false

/-- Whether the next two tokens are a name and an equals sign. -/
def atKeywordPattern : Parser Bool := do
  match (← get).tokens with
  | ⟨.name _, _⟩ :: ⟨.sign "=", _⟩ :: _ => pure true
  | _ => pure false

/-- An argument of a class pattern; the name tells one given by keyword. -/
def classArgument (inner : InnerPattern) (keywordOnly : Bool) :
    Parser (Option String × Pattern) := do
  if keywordOnly || (← atKeywordPattern) then
    let name ← identifier
    expectSign "="
    return (some name, ← inner.pattern)
  else return (none, ← inner.pattern)

/-- The arguments of a class pattern, those by keyword behind the others. -/
def classArguments (inner : InnerPattern) : Parser (List (Option String × Pattern)) := do
  if ← atSign ")" then pure []
  else
    let first ← classArgument inner false
    let (args, _) ← iterate (fun (args, isDone) => do
      if isDone then pure none
      else if ← acceptSign "," then
        if (← peekKind).any startsPattern then
          let keywordOnly := args.head?.any fun (arg : Option String × Pattern) => arg.1.isSome
          return some ((← classArgument inner keywordOnly) :: args, false)
        else pure (some (args, true))
      else pure none) inner.exprs.bound ([first], false)
    return args.reverse

/-- A pattern that starts with a name: a capture, a value or a class. -/
def namePattern (inner : InnerPattern) : Parser Pattern := do
  let start ← position
  let id ← identifier
  let named := Expr.name (← spanFrom start) id .load
  let subject ← patternAttributes inner.exprs.bound start named
  if ← acceptSign "(" then
    let args ← classArguments inner
    expectSign ")"
    let positional := args.filterMap fun (name, pattern) =>
      if name.isNone then some pattern else none
    let keywords := args.filterMap fun (name, pattern) => name.map fun name => (name, pattern)
    return .classOf (← spanFrom start) subject positional (keywords.map (·.1)) (keywords.map (·.2))
  else if isName subject then
    return .capture (← spanFrom start) none (if id == "_" then none else some id)
  else return .value (← spanFrom start) subject

/-- A key of a mapping pattern. -/
def mappingKey (inner : InnerPattern) : Parser Expr := do
  let start ← position
  let literal (value : Literal) : Parser Expr := do
    advance
    return .constant (← spanFrom start) value false
  match ← peekKind with
  | some (.name id) =>
    advance
    let named := Expr.name (← spanFrom start) id .load
    let key ← patternAttributes inner.exprs.bound start named
    if isName key then unexpected else pure key
  | some (.string _) => strings inner.exprs fun kind => isSign ":" (some kind)
  | some (.word "None") => literal .none
  | some (.word "True") => literal (.bool true)
  | some (.word "False") => literal (.bool false)
  | _ => patternNumber

/-- The entries of a mapping pattern so far, the last first, and the name for the rest. -/
structure MappingState where
  entries : List (Expr × Pattern)
  rest : Option String
  isDone : Bool

def mappingEntry (inner : InnerPattern) (s : MappingState) : Parser MappingState := do
  if ← acceptSign "**" then return { s with rest := some (← identifier), isDone := true }
  else
    let key ← mappingKey inner
    expectSign ":"
    return { s with entries := (key, ← inner.pattern) :: s.entries }

/-- Whether a token can start an entry of a mapping pattern. -/
def startsMappingEntry : TokenKind → Bool
  | .name _ | .int _ | .float _ | .imaginary _ | .string _ => true
  | .word text => text ∈ ["None", "True", "False"]
  | .sign text => text ∈ ["-", "**"]
  | _ => false

def mappingPattern (inner : InnerPattern) : Parser Pattern := do
  let start ← position
  expectSign "\x7b"
  if ← acceptSign "\x7d" then return .mapping (← spanFrom start) [] [] none
  else
    let first ← mappingEntry inner ⟨[], none, false⟩
    let state ← iterate (fun s => do
      if s.isDone then pure none
      else if ← acceptSign "," then
        if (← peekKind).any startsMappingEntry then return some (← mappingEntry inner s)
        else pure (some { s with isDone := true })
      else pure none) inner.exprs.bound first
    if state.rest.isSome then
      let _ ← acceptSign ","
    expectSign "\x7d"
    let entries := state.entries.reverse
    return .mapping (← spanFrom start) (entries.map (·.1)) (entries.map (·.2)) state.rest

/-- A pattern in round brackets, or a sequence of them. -/
def groupPattern (inner : InnerPattern) : Parser Pattern := do
  let start ← position
  expectSign "("
  if ← acceptSign ")" then return .sequence (← spanFrom start) []
  else
    let (patterns, trailing) ← commaList inner.exprs.bound startsPattern inner.pattern
    expectSign ")"
    match patterns, trailing with
    | [pattern], false => pure pattern
    | _, _ => return .sequence (← spanFrom start) patterns

def sequencePattern (inner : InnerPattern) : Parser Pattern := do
  let start ← position
  expectSign "["
  if ← acceptSign "]" then return .sequence (← spanFrom start) []
  else
    let (patterns, _) ← commaList inner.exprs.bound startsPattern inner.pattern
    expectSign "]"
    return .sequence (← spanFrom start) patterns

/-- A pattern without alternatives. -/
def closedPattern (inner : InnerPattern) : Parser Pattern := do
  let start ← position
  let singleton (value : Literal) : Parser Pattern := do
    advance
    return .singleton (← spanFrom start) value
  match ← peekKind with
  | some (.word "None") => singleton .none
  | some (.word "True") => singleton (.bool true)
  | some (.word "False") => singleton (.bool false)
  | some (.string _) =>
    let value ← strings inner.exprs followsAlternative
    return .value (← spanFrom start) value
  | some (.name _) => namePattern inner
  | some (.sign "*") =>
    advance
    let id ← identifier
    return .star (← spanFrom start) (if id == "_" then none else some id)
  | some (.sign "(") => groupPattern inner
  | some (.sign "[") => sequencePattern inner
  | some (.sign "\x7b") => mappingPattern inner
  | _ =>
    let value ← patternNumber
    return .value (← spanFrom start) value

/-- Alternatives, perhaps captured under a name, which must not be `_`. -/
def pattern (inner : InnerPattern) : Parser Pattern := do
  let start ← position
  let alternatives ← separated inner.exprs.bound "|" (closedPattern inner)
  let whole : Pattern ←
    match alternatives with
    | [only] => pure only
    | _ => pure (.or (← spanFrom start) alternatives)
  if ← acceptWord "as" then
    let id ← identifier
    if id == "_" then reject followsPattern start
    else return .capture (← spanFrom start) (some whole) (some id)
  else pure whole

/-- The pattern rule at a nesting depth of at most `depth`. -/
def patternLevel : Nat → InnerPattern
  | 0 => ⟨level 0, unexpected⟩
  | depth + 1 => ⟨level (depth + 1), fun cursor => pattern (patternLevel depth) cursor⟩

/-- The pattern of a `case` clause, which may be a sequence without brackets. -/
def casePattern (inner : InnerPattern) : Parser Pattern := do
  let start ← position
  let (patterns, trailing) ← commaList inner.exprs.bound startsPattern inner.pattern
  match patterns, trailing with
  | [pattern], false => pure pattern
  | _, _ => return .sequence (← spanFrom start) patterns

end VersionFloor.Script.Grammar
