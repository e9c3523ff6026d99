import VersionFloor.Script.Parser
import VersionFloor.Script.Lexer
import VersionFloor.Script.StringLiteral

set_option autoImplicit false

namespace VersionFloor.Script.Grammar

open VersionFloor.Script.Parser

/-- The rules that an expression uses for the expressions inside it. -/
structure Inner where
  /-- No list inside is longer than this. -/
  bound : Nat
  /-- A conditional expression, a `lambda` or a disjunction. -/
  test : Parser Expr
  /-- A disjunction. -/
  orTest : Parser Expr
  notTest : Parser Expr
  /-- An operand of a comparison. -/
  operand : Parser Expr
  factor : Parser Expr

/-- The same tree used as a target. -/
def setContext (ctx : Context) : Expr → Expr
  | .name span id _ => .name span id ctx
  | .tuple span elts _ => .tuple span (elts.map (setContext ctx)) ctx
  | .list span elts _ => .list span (elts.map (setContext ctx)) ctx
  | .attribute span value attr _ => .attribute span value attr ctx
  | .subscript span value slice _ => .subscript span value slice ctx
  | .starred span value _ => .starred span (setContext ctx value) ctx
  | e => e

/-- Whether a token can start an expression without a star. -/
def startsTest : TokenKind → Bool
  | .name _ | .int _ | .float _ | .imaginary _ | .string _ => true
  | .word text => text ∈ ["None", "True", "False", "lambda", "not", "await"]
  | .sign text => text ∈ ["(", "[", "\x7b", "-", "+", "~", "..."]
  | _ => false

/-- Whether a token can start an expression with or without a star. -/
def startsStarTest (kind : TokenKind) : Bool :=
  startsTest kind || isSign "*" (some kind)

/-- Whether a token can stand behind an atom: all but those that start an operand or bind a name. -/
def followsAtom : TokenKind → Bool
  | .sign text => text ∉ ["\x7b", "~", "...", ":=", "->"]
  | .word text =>
    text ∈ ["and", "as", "async", "else", "for", "from", "if", "in", "is", "not", "or"]
  | .newline => true
  | _ => false

/-- Whether a token can stand behind an expression that no operator can go on. -/
def followsTest : TokenKind → Bool
  | .sign text =>
    text ∈ [")", "]", "\x7d", ",", ":", ";", "=", "+=", "-=", "*=", "@=", "/=", "%=", "&=", "|=",
      "^=", "<<=", ">>=", "**=", "//="]
  | .word text => text ∈ ["as", "async", "for", "from"]
  | .newline => true
  | _ => false

/-- Operators of one precedence, applied from left to right. -/
def leftAssoc (bound : Nat) (operator? : String → Option Operator) (operand : Parser Expr) :
    Parser Expr := do
  let start ← position
  let first ← operand
  iterate (fun left => do
    match ← peekKind with
    | some (.sign text) =>
      match operator? text with
      | some op =>
        advance
        let right ← operand
        return some (.binary (← spanFrom start) left op right)
      | none => pure none
    | _ => pure none) bound first

/-- One operand, or several joined by the word `word`. -/
def boolChain (bound : Nat) (word : String) (op : BoolOp) (operand : Parser Expr) :
    Parser Expr := do
  let start ← position
  let first ← operand
  let rest ← repeated (do if ← acceptWord word then return some (← operand) else pure none) bound
  if rest.isEmpty then pure first else return .boolOp (← spanFrom start) op (first :: rest)

/-- `* operand`. -/
def starExpr (inner : Inner) : Parser Expr := do
  let start ← position
  expectSign "*"
  let value ← inner.operand
  return .starred (← spanFrom start) value .load

/-- An expression or one with a star. -/
def testOrStar (inner : Inner) : Parser Expr := do
  if ← atSign "*" then starExpr inner else inner.test

/-- Whether the next two tokens are a name and `:=`. -/
def atNamed : Parser Bool := do
  match (← get).tokens with
  | name :: sign :: _ =>
    match name.kind, sign.kind with
    | .name _, .sign ":=" => pure true
    | _, _ => pure false
  | _ => pure false

/-- `name := test`, up to the end of the value without the brackets around that. -/
def namedExpr (inner : Inner) : Parser Expr := do
  let start ← position
  let id ← identifier
  let target := Expr.name (← spanFrom start) id .store
  expectSign ":="
  let value ← inner.test
  return .named ⟨start, value.span.stop⟩ target value

def namedTest (inner : Inner) : Parser Expr := do
  if ← atNamed then namedExpr inner else inner.test

def namedOrStar (inner : Inner) : Parser Expr := do
  if ← atSign "*" then starExpr inner else namedTest inner

/-- Elements as one expression: the only one itself, several or one before a comma as a tuple. -/
def tupleOrSingle (elements : List Expr × Bool) (span : Span) : Expr :=
  match elements with
  | ([e], false) => e
  | (elts, _) => .tuple span elts .load

/-- A list of expressions without brackets around it. -/
def testList (inner : Inner) : Parser Expr := do
  let start ← position
  let elements ← commaList inner.bound startsStarTest (testOrStar inner)
  return tupleOrSingle elements (← spanFrom start)

/-- The target of a loop: operands, with or without a star. -/
def targetList (inner : Inner) : Parser Expr := do
  let start ← position
  let element : Parser Expr := do if ← atSign "*" then starExpr inner else inner.operand
  let elements ← commaList inner.bound startsStarTest element
  return tupleOrSingle elements (← spanFrom start)

/-- `yield`, with a value or a source of values. -/
def yieldExpr (inner : Inner) : Parser Expr := do
  let start ← position
  expectWord "yield"
  if ← acceptWord "from" then
    let value ← inner.test
    return .yieldFrom (← spanFrom start) value
  else if (← peekKind).any startsStarTest then
    let value ← testList inner
    return .yield (← spanFrom start) (some value)
  else return .yield (← spanFrom start) none

def testListOrYield (inner : Inner) : Parser Expr := do
  if ← atWord "yield" then yieldExpr inner else testList inner

/-- Whether the next token is one that a comprehension clause starts with. -/
def atClause : Parser Bool := do
  return (← atWord "for") || (← atWord "async")

/-- Reads the operator of a comparison if one is next. -/
def compareOp? : Parser (Option CompareOp) := do
  let found (op : CompareOp) : Parser (Option CompareOp) := do
    advance
    pure (some op)
  match ← peekKind with
  | some (.sign text) =>
    match text with
    | "==" => found .eq
    | "!=" => found .notEq
    | "<" => found .lt
    | "<=" => found .ltE
    | ">" => found .gt
    | ">=" => found .gtE
    | _ => pure none
  | some (.word "in") => found .isIn
  | some (.word "not") =>
    advance
    expectWord "in"
    pure (some .notIn)
  | some (.word "is") =>
    advance
    if ← acceptWord "not" then pure (some .isNot) else pure (some .is)
  | _ => pure none

inductive CallArgument
  | positional (value : Expr)
  | keyword (keyword : Keyword)

def isStarred : Expr → Bool
  | .starred .. => true
  | _ => false

/--
Where the arguments of a call break its rules: a keyword twice, a positional argument behind a
keyword, or an unpacked sequence behind an unpacked mapping.
-/
def argumentFault? (names : List String) (hasKeyword hasMapping : Bool) :
    List CallArgument → Option Nat
  | [] => none
  | .keyword keyword :: rest =>
    match keyword.arg with
    | some name =>
      if name ∈ names then some keyword.span.start
      else argumentFault? (name :: names) true hasMapping rest
    | none => argumentFault? names true true rest
  | .positional value :: rest =>
    if hasKeyword && !isStarred value then some value.span.start
    else if hasMapping then some value.span.start
    else argumentFault? names hasKeyword hasMapping rest

def positionalArguments (args : List CallArgument) : List Expr :=
  args.filterMap fun
    | .positional value => some value
    | .keyword _ => none

def keywordArguments (args : List CallArgument) : List Keyword :=
  args.filterMap fun
    | .positional _ => none
    | .keyword keyword => some keyword

/-- Comprehension clauses, one or more. -/
def clauses (inner : Inner) : Parser (List Comprehension) :=
  repeated (do
    if ← atClause then
      let isAsync ← acceptWord "async"
      expectWord "for"
      let target ← targetList inner
      expectWord "in"
      let iter ← inner.orTest
      let ifs ← repeated (do
        if ← acceptWord "if" then return some (← inner.orTest) else pure none) inner.bound
      return some ⟨setContext .store target, iter, ifs, isAsync⟩
    else pure none) inner.bound

/-- Whether a token can start an argument of a call. -/
def startsArgument (kind : TokenKind) : Bool :=
  startsStarTest kind || isSign "**" (some kind)

/-- One argument of a call. -/
def argument (inner : Inner) : Parser CallArgument := do
  let start ← position
  if ← acceptSign "**" then
    let value ← inner.test
    return .keyword ⟨← spanFrom start, none, value⟩
  else if ← acceptSign "*" then
    let value ← inner.test
    return .positional (.starred (← spanFrom start) value .load)
  else
    match (← get).tokens with
    | ⟨.name id, _⟩ :: ⟨.sign "=", _⟩ :: _ =>
      advance
      advance
      let value ← inner.test
      return .keyword ⟨← spanFrom start, some id, value⟩
    | _ =>
      let value ← namedTest inner
      if ← atClause then
        let generators ← clauses inner
        return .positional (.generator (← spanFrom start) value generators)
      else return .positional value

/-- The arguments of a call and its closing bracket, behind the opening one. -/
def arguments (inner : Inner) : Parser (List CallArgument) := do
  let args ←
    if ← atSign ")" then pure []
    else Prod.fst <$> commaList inner.bound startsArgument (argument inner)
  unless ← atSign ")" do unexpected
  match argumentFault? [] false false args with
  | some offset => throw offset
  | none =>
    advance
    pure args

/-- An item of a subscript: an expression or a slice. -/
def subscriptItem (inner : Inner) : Parser Expr := do
  let start ← position
  if ← atSign "*" then starExpr inner
  else if ← atNamed then namedExpr inner
  else
    let optional : Parser (Option Expr) := do
      if (← peekKind).any startsTest then return some (← inner.test) else pure none
    let lower ← optional
    if ← acceptSign ":" then
      let upper ← optional
      let step ← if ← acceptSign ":" then optional else pure none
      return .slice (← spanFrom start) lower upper step
    else
      match lower with
      | some e => pure e
      | none => unexpected

/-- Whether a token can start an item of a subscript. -/
def startsItem (kind : TokenKind) : Bool :=
  startsStarTest kind || isSign ":" (some kind)

/-- The inside of a subscript. -/
def subscript (inner : Inner) : Parser Expr := do
  let start ← position
  let items ← commaList inner.bound startsItem (subscriptItem inner)
  return tupleOrSingle items (← spanFrom start)

/-- The inside of a pair of round brackets. -/
inductive Group
  /--
  Expressions with commas between them, whether a comma ends the list, and whether none of them is
  starred or names its value.
  -/
  | elements (items : List Expr) (trailing plain : Bool)
  /-- Anything else, as the expression it is. -/
  | other (value : Expr)

/--
Reads a pair of round brackets and what is inside; `follows` tells what may stand behind them.
-/
def group (inner : Inner) (follows : TokenKind → Bool) : Parser Group := do
  let start ← position
  expectSign "("
  if ← acceptSign ")" then return .other (.tuple (← spanFrom start) [] .load)
  else if ← atWord "yield" then
    let value ← yieldExpr inner
    expectSign ")"
    return .other value
  else if ← atSign "**" then
    let stars ← position
    advance
    let _ ← inner.operand
    expectSign ")"
    reject follows stars
  else
    let (first, isPlain) ← element
    if !isStarred first && (← atClause) then
      let generators ← clauses inner
      expectSign ")"
      return .other (.generator (← spanFrom start) first generators)
    else
      let (rest, trailing) ← others
      expectSign ")"
      if isStarred first && rest.isEmpty && !trailing then reject follows first.span.start
      return .elements (first :: rest.map (·.1)) trailing (isPlain && rest.all (·.2))
where
  element : Parser (Expr × Bool) := do
    let isPlain := !(← atSign "*") && !(← atNamed)
    return (← namedOrStar inner, isPlain)
  others : Parser (List (Expr × Bool) × Bool) := do
    if ← acceptSign "," then
      if (← peekKind).any startsStarTest then commaList inner.bound startsStarTest element
      else return ([], true)
    else return ([], false)

/-- The expression that a pair of round brackets and its inside stand for. -/
def Group.toExpr (span : Span) : Group → Expr
  | .elements items trailing _ => tupleOrSingle (items, trailing) span
  | .other value => value

/-- A display or comprehension in square brackets. -/
def listDisplay (inner : Inner) : Parser Expr := do
  let start ← position
  expectSign "["
  if ← acceptSign "]" then return .list (← spanFrom start) [] .load
  else
    let (items, trailing) ← commaList inner.bound startsStarTest (namedOrStar inner)
    match items, trailing with
    | [e], false =>
      if ← atClause then
        let generators ← clauses inner
        expectSign "]"
        return .listComp (← spanFrom start) e generators
      else
        expectSign "]"
        return .list (← spanFrom start) [e] .load
    | _, _ =>
      expectSign "]"
      return .list (← spanFrom start) items .load

/-- An entry of a dictionary: a key and its value, or an unpacked mapping. -/
def dictEntry (inner : Inner) : Parser DictEntry := do
  if ← acceptSign "**" then return ⟨none, ← inner.operand⟩
  else
    let key ← inner.test
    expectSign ":"
    return ⟨some key, ← inner.test⟩

/-- Whether a token can start an entry of a dictionary. -/
def startsEntry (kind : TokenKind) : Bool :=
  startsTest kind || isSign "**" (some kind)

/-- A display or comprehension in braces: a dictionary or a set. -/
def braceDisplay (inner : Inner) : Parser Expr := do
  let start ← position
  expectSign "\x7b"
  if ← acceptSign "\x7d" then return .dict (← spanFrom start) []
  else if ← atSign "**" then
    let (entries, _) ← commaList inner.bound startsEntry (dictEntry inner)
    finishDict start entries
  else
    let isNamed ← atNamed
    let first ← namedOrStar inner
    if !isStarred first && !isNamed && (← atSign ":") then
      advance
      let value ← inner.test
      if ← atClause then
        let generators ← clauses inner
        expectSign "\x7d"
        return .dictComp (← spanFrom start) first value generators
      else
        let rest ← more startsEntry (dictEntry inner)
        finishDict start (⟨some first, value⟩ :: rest)
    else if !isStarred first && (← atClause) then
      let generators ← clauses inner
      expectSign "\x7d"
      return .setComp (← spanFrom start) first generators
    else
      let rest ← more startsStarTest (namedOrStar inner)
      expectSign "\x7d"
      return .set (← spanFrom start) (first :: rest)
where
  finishDict (start : Nat) (entries : List DictEntry) : Parser Expr := do
    expectSign "\x7d"
    return .dict (← spanFrom start) entries
  more {α : Type} (starts : TokenKind → Bool) (element : Parser α) : Parser (List α) := do
    if ← acceptSign "," then
      if (← peekKind).any starts then return (← commaList inner.bound starts element).1 else pure []
    else pure []

/-- The expression of a replacement field, whose text is a script of its own. -/
def readField (inner : Inner) : StringLiteral.FieldReader := fun start text =>
  let stream := TokenStream.ofSource (Source.ofChars start text) false
  let rule : Parser Expr := do
    let value ← testList inner
    let _ ← repeated (do
      if ← atNewline then
        advance
        pure (some ())
      else pure none) inner.bound
    match ← peek with
    | none => pure value
    | some _ => unexpected
  match rule.run ⟨stream.tokens, start, stream.failure⟩ with
  | .ok (value, _) => some value
  | .error _ => none

/-- Neighbouring string literals; `follows` tells what may stand behind them. -/
def strings (inner : Inner) (follows : TokenKind → Bool) : Parser Expr := do
  let start ← position
  let literals ← repeated (do
    match ← peek with
    | some ⟨.string literal, span⟩ =>
      advance
      pure (some (literal, span))
    | _ => pure none) inner.bound
  let whole ← spanFrom start
  match StringLiteral.concat (readField inner) literals whole with
  | .ok e => pure e
  | .error offset => reject follows offset

def atom (inner : Inner) : Parser Expr := do
  let start ← position
  let literal (value : Literal) : Parser Expr := do
    advance
    return .constant (← spanFrom start) value false
  match ← peekKind with
  | some (.name id) =>
    advance
    return .name (← spanFrom start) id .load
  | some (.int value) => literal (.int value)
  | some (.float value) => literal (.float value)
  | some (.imaginary value) => literal (.imaginary value)
  | some (.string _) => strings inner followsAtom
  | some (.word "None") => literal .none
  | some (.word "True") => literal (.bool true)
  | some (.word "False") => literal (.bool false)
  | some (.sign "...") => literal .ellipsis
  | some (.sign "(") =>
    let content ← group inner followsAtom
    return content.toExpr (← spanFrom start)
  | some (.sign "[") => listDisplay inner
  | some (.sign "\x7b") => braceDisplay inner
  | _ => unexpected

/-- Calls, subscripts and attributes behind `first`, which starts at `start`. -/
def trailers (inner : Inner) (start : Nat) (first : Expr) : Parser Expr :=
  iterate (fun e => do
    if ← acceptSign "(" then
      let args ← arguments inner
      return some (.call (← spanFrom start) e (positionalArguments args) (keywordArguments args))
    else if ← acceptSign "[" then
      let item ← subscript inner
      expectSign "]"
      return some (.subscript (← spanFrom start) e item .load)
    else if ← acceptSign "." then
      let attr ← identifier
      return some (.attribute (← spanFrom start) e attr .load)
    else pure none) inner.bound first

/-- An atom with its trailers, perhaps awaited. -/
def primary (inner : Inner) : Parser Expr := do
  let start ← position
  let isAwaited ← acceptWord "await"
  let first ← position
  let value ← trailers inner first (← atom inner)
  if isAwaited then return .await (← spanFrom start) value else pure value

def power (inner : Inner) : Parser Expr := do
  let start ← position
  let base ← primary inner
  if ← acceptSign "**" then
    let exponent ← inner.factor
    return .binary (← spanFrom start) base .pow exponent
  else pure base

def unaryOp? : String → Option UnaryOp
  | "+" => some .uAdd
  | "-" => some .uSub
  | "~" => some .invert
  | _ => none

def factor (inner : Inner) : Parser Expr := do
  let start ← position
  match ← peekKind with
  | some (.sign text) =>
    match unaryOp? text with
    | some op =>
      advance
      let operand ← inner.factor
      return .unary (← spanFrom start) op operand
    | none => power inner
  | _ => power inner

/-- The operators of an operand of a comparison, those that bind loosest first. -/
def binaryLevels : List (String → Option Operator) :=
  [fun
    | "|" => some .bitOr
    | _ => none,
   fun
    | "^" => some .bitXor
    | _ => none,
   fun
    | "&" => some .bitAnd
    | _ => none,
   fun
    | "<<" => some .lShift
    | ">>" => some .rShift
    | _ => none,
   fun
    | "+" => some .add
    | "-" => some .sub
    | _ => none,
   fun
    | "*" => some .mult
    | "/" => some .div
    | "//" => some .floorDiv
    | "%" => some .mod
    | "@" => some .matMult
    | _ => none]

/-- An operand of a comparison. -/
def operand (inner : Inner) : Parser Expr :=
  binaryLevels.foldr (leftAssoc inner.bound) (factor inner)

def comparison (inner : Inner) : Parser Expr := do
  let start ← position
  let left ← operand inner
  let rest ← repeated (do
    match ← compareOp? with
    | some op => return some (op, ← operand inner)
    | none => pure none) inner.bound
  if rest.isEmpty then pure left
  else return .compare (← spanFrom start) left (rest.map (·.1)) (rest.map (·.2))

def notTest (inner : Inner) : Parser Expr := do
  let start ← position
  if ← acceptWord "not" then
    let operand ← inner.notTest
    return .unary (← spanFrom start) .not operand
  else comparison inner

/-- A disjunction. -/
def orTest (inner : Inner) : Parser Expr :=
  boolChain inner.bound "or" .or (boolChain inner.bound "and" .and (notTest inner))

/-- The parameters read so far, each list with the last parameter first. -/
structure ParameterState where
  positionalOnly : List Parameter
  positional : List Parameter
  /-- The offset of the single star, once it has been read. -/
  star : Option Nat
  variadic : Option Argument
  keywordOnly : List Parameter
  /-- Two stars have been read. -/
  isClosed : Bool
  keywords : Option Argument
  hasSlash : Bool

def ParameterState.empty : ParameterState :=
  ⟨[], [], none, none, [], false, none, false⟩

def ParameterState.toParameters (s : ParameterState) : Parameters :=
  ⟨s.positionalOnly.reverse, s.positional.reverse, s.variadic, s.keywordOnly.reverse, s.keywords⟩

/-- How parameters of a definition and of a `lambda` differ: only the former have annotations. -/
structure ParameterStyle where
  hint : Parser (Option Expr)
  starHint : Parser (Option Expr)

/-- A parameter without its default. -/
def parameterName (hint : Parser (Option Expr)) : Parser Argument := do
  let start ← position
  let name ← identifier
  let hint ← hint
  return ⟨← spanFrom start, name, hint⟩

def optionalName (hint : Parser (Option Expr)) : Parser (Option Argument) := do
  if ← atName then return some (← parameterName hint) else pure none

/-- Whether a token can go on a parameter list after what has been read. -/
def ParameterState.accepts (s : ParameterState) : TokenKind → Bool
  | .name _ => !s.isClosed
  | .sign "*" => s.star.isNone && !s.isClosed
  | .sign "**" => !s.isClosed
  | .sign "/" => !s.positional.isEmpty && !s.hasSlash && s.star.isNone && !s.isClosed
  | _ => false

/-- Reads one parameter or mark; the next token is one that the state accepts. -/
def parameter (inner : Inner) (style : ParameterStyle) (s : ParameterState) :
    Parser ParameterState := do
  if ← acceptSign "/" then
    return { s with positionalOnly := s.positional, positional := [], hasSlash := true }
  else if ← atSign "*" then
    let star ← position
    advance
    return { s with star := some star, variadic := ← optionalName style.starHint }
  else if ← acceptSign "**" then
    return { s with isClosed := true, keywords := ← optionalName style.hint }
  else
    let arg ← parameterName style.hint
    let default ← if ← acceptSign "=" then some <$> inner.test else pure none
    let parameter : Parameter := ⟨arg, default⟩
    if s.star.isSome then return { s with keywordOnly := parameter :: s.keywordOnly }
    else return { s with positional := parameter :: s.positional }

/-- The first parameter without a default behind one that has a default. -/
def missingDefault? (hasDefault : Bool) : List Parameter → Option Nat
  | [] => none
  | parameter :: rest =>
    if parameter.default.isSome then missingDefault? true rest
    else if hasDefault then some parameter.arg.span.start
    else missingDefault? false rest

/-- The first parameter with the name of an earlier one. -/
def repeatedName? (names : List String) : List Argument → Option Nat
  | [] => none
  | arg :: rest =>
    if arg.name ∈ names then some arg.span.start else repeatedName? (arg.name :: names) rest

/-- Where parameters repeat a name, taken in the order positional, keyword only, variadic. -/
def repeatedParameter? (p : Parameters) : Option Nat :=
  let named := (p.positionalOnly ++ p.positional ++ p.keywordOnly).map (·.arg)
  repeatedName? [] (named ++ p.variadic.toList ++ p.keywords.toList)

/--
A parameter list up to the sign `closing`, which is not read. A single star needs a parameter behind
it, and parameters with defaults come last among the positional ones.
-/
def parameterList (inner : Inner) (style : ParameterStyle) (closing : String) :
    Parser Parameters := do
  if ← atSign closing then pure ⟨[], [], none, [], none⟩
  else
    unless (← peekKind).any ParameterState.empty.accepts do unexpected
    let first ← parameter inner style .empty
    let (state, _) ← iterate (fun (state, isDone) => do
      if isDone then pure none
      else if ← acceptSign "," then
        if (← peekKind).any state.accepts then return some (← parameter inner style state, false)
        else pure (some (state, true))
      else pure none) inner.bound (first, false)
    unless ← atSign closing do unexpected
    match state.star with
    | some star =>
      if state.variadic.isNone && state.keywordOnly.isEmpty && !state.isClosed then throw star
    | none => pure ()
    let params := state.toParameters
    match missingDefault? false (params.positionalOnly ++ params.positional) with
    | some offset => throw offset
    | none => pure params

def untyped : ParameterStyle :=
  ⟨pure none, pure none⟩

def typed (inner : Inner) : ParameterStyle where
  hint := do if ← acceptSign ":" then return some (← inner.test) else pure none
  starHint := do if ← acceptSign ":" then return some (← testOrStar inner) else pure none

def lambda (inner : Inner) : Parser Expr := do
  let start ← position
  expectWord "lambda"
  let params ← parameterList inner untyped ":"
  expectSign ":"
  let body ← inner.test
  match repeatedParameter? params with
  | some offset => reject followsTest offset
  | none => return .lambda (← spanFrom start) params body

/-- A conditional expression, a `lambda` or a disjunction. -/
def test (inner : Inner) : Parser Expr := do
  let start ← position
  if ← atWord "lambda" then lambda inner
  else
    let body ← orTest inner
    if ← acceptWord "if" then
      let condition ← orTest inner
      expectWord "else"
      let orelse ← inner.test
      return .ifElse (← spanFrom start) condition body orelse
    else pure body

/--
The rules at a nesting depth of at most `depth`. Every step inwards reads at least one token, so a
script never needs more levels than it has tokens, and the level is also a bound for every
repetition.
-/
def level : Nat → Inner
  | 0 => ⟨0, unexpected, unexpected, unexpected, unexpected, unexpected⟩
  | depth + 1 =>
    { bound := depth + 1
      test := fun cursor => test (level depth) cursor
      orTest := fun cursor => orTest (level depth) cursor
      notTest := fun cursor => notTest (level depth) cursor
      operand := fun cursor => operand (level depth) cursor
      factor := fun cursor => factor (level depth) cursor }

end VersionFloor.Script.Grammar
