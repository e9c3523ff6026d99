import VersionFloor.Script.Grammar.Pattern

set_option autoImplicit false

namespace VersionFloor.Script.Grammar

open VersionFloor.Script.Parser

/-- The rules that a compound statement uses for what is inside it. -/
structure InnerBlock where
  exprs : Inner
  patterns : InnerPattern
  block : Parser (List Stmt)

def stmtSpan : Stmt → Span
  | .functionDef span .. | .classDef span .. | .returnValue span .. | .delete span .. => span
  | .assign span .. | .typeAlias span .. | .augAssign span .. | .annAssign span .. => span
  | .forLoop span .. | .whileLoop span .. | .conditional span .. | .withBlock span .. => span
  | .matchBlock span .. | .raise span .. | .tryBlock span .. | .assert span .. => span
  | .importModules span .. | .importFrom span .. | .global span .. | .nonlocal span .. => span
  | .expr span .. | .pass span | .breakLoop span | .continueLoop span => span

/-- Where the last statement of a block ends. -/
def blockEnd (block : List Stmt) (otherwise : Nat) : Nat :=
  (block.getLast?.map fun s => (stmtSpan s).stop).getD otherwise

/-- Where the last of several blocks that is not empty ends. -/
def blocksEnd (blocks : List (List Stmt)) : Nat :=
  blocks.foldl (fun stop block => blockEnd block stop) 0

def augmented? : String → Option Operator
  | "+=" => some .add
  | "-=" => some .sub
  | "*=" => some .mult
  | "@=" => some .matMult
  | "/=" => some .div
  | "%=" => some .mod
  | "&=" => some .bitAnd
  | "|=" => some .bitOr
  | "^=" => some .bitXor
  | "<<=" => some .lShift
  | ">>=" => some .rShift
  | "**=" => some .pow
  | "//=" => some .floorDiv
  | _ => none

/-- An annotated assignment behind its target. -/
def annotated (inner : Inner) (start : Nat) (target : Expr) : Parser Stmt := do
  expectSign ":"
  let hint ← inner.test
  let value ← if ← acceptSign "=" then some <$> testListOrYield inner else pure none
  return .annAssign (← spanFrom start) (setContext .store target) hint value (isName target)

/-- The targets and value of an assignment chain `first = … = value`. -/
def assignment (span : Span) (first : Expr) (values : List Expr) : Stmt :=
  match values.getLast? with
  | none => .expr span first
  | some value => .assign span ((first :: values.dropLast).map (setContext .store)) value

/-- An expression, an assignment, an augmented or an annotated one. -/
def expressionStmt (inner : Inner) : Parser Stmt := do
  let start ← position
  let elements ← commaList inner.bound startsStarTest (testOrStar inner)
  let first := tupleOrSingle elements (← spanFrom start)
  let isPlain :=
    match elements with
    | ([e], false) => !isStarred e
    | _ => false
  match ← peekKind with
  | some (.sign text) =>
    if text == ":" && isPlain then annotated inner start first
    else
      match augmented? text with
      | some op =>
        advance
        let value ← testListOrYield inner
        return .augAssign (← spanFrom start) (setContext .store first) op value
      | none => chain start first
  | _ => chain start first
where
  chain (start : Nat) (first : Expr) : Parser Stmt := do
    let values ← repeated (do
      if ← acceptSign "=" then return some (← testListOrYield inner) else pure none) inner.bound
    return assignment (← spanFrom start) first values

def returnStmt (inner : Inner) : Parser Stmt := do
  let start ← position
  expectWord "return"
  let value ← if (← peekKind).any startsStarTest then some <$> testList inner else pure none
  return .returnValue (← spanFrom start) value

def deleteStmt (inner : Inner) : Parser Stmt := do
  let start ← position
  expectWord "del"
  let element : Parser Expr := do if ← atSign "*" then starExpr inner else inner.operand
  let (targets, _) ← commaList inner.bound startsStarTest element
  return .delete (← spanFrom start) (targets.map (setContext .del))

def raiseStmt (inner : Inner) : Parser Stmt := do
  let start ← position
  expectWord "raise"
  if (← peekKind).any startsTest then
    let exc ← inner.test
    let cause ← if ← acceptWord "from" then some <$> inner.test else pure none
    return .raise (← spanFrom start) (some exc) cause
  else return .raise (← spanFrom start) none none

def assertStmt (inner : Inner) : Parser Stmt := do
  let start ← position
  expectWord "assert"
  let test ← inner.test
  let msg ← if ← acceptSign "," then some <$> inner.test else pure none
  return .assert (← spanFrom start) test msg

/-- Names with dots between them, as one text. -/
def dottedName (inner : Inner) : Parser String := do
  let names ← separated inner.bound "." identifier
  return ".".intercalate names

/-- A name and the local name given to it. -/
def importedName (name : Parser String) : Parser Alias := do
  let start ← position
  let name ← name
  let asName ← if ← acceptWord "as" then some <$> identifier else pure none
  return ⟨← spanFrom start, name, asName⟩

def importStmt (inner : Inner) : Parser Stmt := do
  let start ← position
  expectWord "import"
  let names ← separated inner.bound "," (importedName (dottedName inner))
  return .importModules (← spanFrom start) names

/-- The dots before a module name, counted. -/
def importDots (inner : Inner) : Parser Nat := do
  let dots ← repeated (do
    if ← acceptSign "..." then pure (some 3)
    else if ← acceptSign "." then pure (some 1)
    else pure none) inner.bound
  return dots.foldl (· + ·) 0

/-- The names of a `from` import: all, a list in brackets or a list without. -/
def importedNames (inner : Inner) : Parser (List Alias) := do
  let start ← position
  if ← acceptSign "*" then return [⟨← spanFrom start, "*", none⟩]
  else if ← acceptSign "(" then
    let isName : TokenKind → Bool
      | .name _ => true
      | _ => false
    let (names, _) ← commaList inner.bound isName (importedName identifier)
    expectSign ")"
    pure names
  else separated inner.bound "," (importedName identifier)

def fromStmt (inner : Inner) : Parser Stmt := do
  let start ← position
  expectWord "from"
  let level ← importDots inner
  let origin ←
    if level = 0 || (← atName) then some <$> dottedName inner else pure none
  expectWord "import"
  let names ← importedNames inner
  return .importFrom (← spanFrom start) origin names level

def typeParam (inner : Inner) : Parser TypeParam := do
  let start ← position
  if ← acceptSign "**" then
    let name ← identifier
    return .paramSpec (← spanFrom start) name
  else if ← acceptSign "*" then
    let name ← identifier
    return .typeVarTuple (← spanFrom start) name
  else
    let name ← identifier
    let bound ← if ← acceptSign ":" then some <$> inner.test else pure none
    return .typeVar (← spanFrom start) name bound

/-- Type parameters in square brackets, none if there are no brackets. -/
def typeParams (inner : Inner) : Parser (List TypeParam) := do
  if ← acceptSign "[" then
    let starts : TokenKind → Bool
      | .name _ => true
      | kind => isSign "*" (some kind) || isSign "**" (some kind)
    let (params, _) ← commaList inner.bound starts (typeParam inner)
    expectSign "]"
    pure params
  else pure []

def typeAliasStmt (inner : Inner) : Parser Stmt := do
  let start ← position
  expectWord "type"
  let nameStart ← position
  let id ← identifier
  let name := Expr.name (← spanFrom nameStart) id .store
  let params ← typeParams inner
  expectSign "="
  let value ← inner.test
  return .typeAlias (← spanFrom start) name params value

/-- A statement of a single word. -/
def wordStmt (word : String) (build : Span → Stmt) : Parser Stmt := do
  let start ← position
  expectWord word
  return build (← spanFrom start)

/-- A declaration of names. -/
def scopeStmt (inner : Inner) (word : String) (build : Span → List String → Stmt) :
    Parser Stmt := do
  let start ← position
  expectWord word
  let names ← separated inner.bound "," identifier
  return build (← spanFrom start) names

/-- A statement that fits on part of a line. -/
def smallStmt (inner : Inner) : Parser Stmt := do
  match ← peekKind with
  | some (.word text) =>
    match text with
    | "pass" => wordStmt "pass" .pass
    | "break" => wordStmt "break" .breakLoop
    | "continue" => wordStmt "continue" .continueLoop
    | "return" => returnStmt inner
    | "del" => deleteStmt inner
    | "raise" => raiseStmt inner
    | "assert" => assertStmt inner
    | "import" => importStmt inner
    | "from" => fromStmt inner
    | "global" => scopeStmt inner "global" .global
    | "nonlocal" => scopeStmt inner "nonlocal" .nonlocal
    | "type" => typeAliasStmt inner
    | "yield" =>
      let start ← position
      let value ← yieldExpr inner
      return .expr (← spanFrom start) value
    | _ => expressionStmt inner
  | _ => expressionStmt inner

/-- Small statements with semicolons between them, up to the end of the line. -/
def simpleLine (inner : Inner) : Parser (List Stmt) := do
  let first ← smallStmt inner
  let rest ← repeated (do
    if ← acceptSign ";" then
      if ← atNewline then pure none else return some (← smallStmt inner)
    else pure none) inner.bound
  expectNewline
  return first :: rest

/-- A block: small statements on the same line, or an indented block. -/
def suite (inner : InnerBlock) : Parser (List Stmt) := do
  if ← atNewline then
    advance
    expectIndent
    let stmts ← inner.block
    expectDedent
    pure stmts
  else simpleLine inner.exprs

/-- `else` and its block, empty if there is none. -/
def elseBlock (inner : InnerBlock) : Parser (List Stmt) := do
  if ← acceptWord "else" then
    expectSign ":"
    suite inner
  else pure []

/-- A branch of an `if` statement behind its first. -/
structure Branch where
  start : Nat
  test : Expr
  body : List Stmt

/-- Nests the branches of an `if` statement: each is what the one before does otherwise. -/
def nestBranches (stop : Nat) (last : List Stmt) : List Branch → List Stmt
  | [] => last
  | branch :: rest =>
    [.conditional ⟨branch.start, stop⟩ branch.test branch.body (nestBranches stop last rest)]

def ifStmt (inner : InnerBlock) : Parser Stmt := do
  let start ← position
  expectWord "if"
  let test ← namedTest inner.exprs
  expectSign ":"
  let body ← suite inner
  let branches ← repeated (do
    let start ← position
    if ← acceptWord "elif" then
      let test ← namedTest inner.exprs
      expectSign ":"
      return some (Branch.mk start test (← suite inner))
    else pure none) inner.exprs.bound
  let last ← elseBlock inner
  let stop := blocksEnd ([body] ++ branches.map (·.body) ++ [last])
  return .conditional ⟨start, stop⟩ test body (nestBranches stop last branches)

def whileStmt (inner : InnerBlock) : Parser Stmt := do
  let start ← position
  expectWord "while"
  let test ← namedTest inner.exprs
  expectSign ":"
  let body ← suite inner
  let orelse ← elseBlock inner
  return .whileLoop ⟨start, blocksEnd [body, orelse]⟩ test body orelse

/-- A `for` loop, which starts at `start`; the next word is `for`. -/
def forStmt (inner : InnerBlock) (start : Nat) (isAsync : Bool) : Parser Stmt := do
  expectWord "for"
  let target ← targetList inner.exprs
  expectWord "in"
  let iter ← testList inner.exprs
  expectSign ":"
  let body ← suite inner
  let orelse ← elseBlock inner
  return .forLoop ⟨start, blocksEnd [body, orelse]⟩ isAsync (setContext .store target)
    iter body orelse

/-- An `except` clause behind its first words. -/
def handler (inner : InnerBlock) (start : Nat) (type : Option Expr) : Parser ExceptHandler := do
  let name ←
    if type.isSome && (← atWord "as") then
      advance
      some <$> identifier
    else pure none
  expectSign ":"
  let body ← suite inner
  return ⟨⟨start, blockEnd body start⟩, type, name, body⟩

/-- `except` clauses; all of them have a star when the first one does. -/
def handlers (inner : InnerBlock) : Parser (Bool × List ExceptHandler) := do
  let start ← position
  expectWord "except"
  let isStar ← acceptSign "*"
  let first ← clause start isStar
  let rest ← repeated (do
    let start ← position
    if ← acceptWord "except" then
      if isStar then expectSign "*"
      return some (← clause start isStar)
    else pure none) inner.exprs.bound
  return (isStar, first :: rest)
where
  clause (start : Nat) (isStar : Bool) : Parser ExceptHandler := do
    let type ← if isStar || !(← atSign ":") then some <$> inner.exprs.test else pure none
    handler inner start type

def tryStmt (inner : InnerBlock) : Parser Stmt := do
  let start ← position
  expectWord "try"
  expectSign ":"
  let body ← suite inner
  if ← acceptWord "finally" then
    expectSign ":"
    let final ← suite inner
    return .tryBlock ⟨start, blocksEnd [body, final]⟩ false body [] [] final
  else
    let (isStar, clauses) ← handlers inner
    let orelse ← elseBlock inner
    let final ←
      if ← acceptWord "finally" then
        expectSign ":"
        suite inner
      else pure []
    let stop := blocksEnd ([body] ++ clauses.map (·.body) ++ [orelse, final])
    return .tryBlock ⟨start, stop⟩ isStar body clauses orelse final

/-- An item of a `with` statement. -/
def withItem (inner : Inner) : Parser WithItem := do
  let context ← inner.test
  let target ← if ← acceptWord "as" then some <$> inner.operand else pure none
  return ⟨context, target.map (setContext .store)⟩

/-- Whether a token can stand behind the atom that a `with` statement starts with. -/
def followsFirstContext : TokenKind → Bool
  | .sign text =>
    text ∈ [":", ",", "(", "[", ".", "**", "*", "/", "//", "%", "@", "+", "-", "<<", ">>", "&", "^",
      "|", "==", "!=", "<", "<=", ">", ">="]
  | .word text => text ∈ ["and", "as", "if", "in", "is", "not", "or"]
  | _ => false

/--
The expressions that brackets start with, up to the first that is given a name; the second answer
tells whether there is one.
-/
def contextsToName (inner : Inner) : Parser (List Expr × Bool) :=
  iterate (fun (contexts, isNamed) => do
    let isPlain := (← peekKind).any startsTest && !(← atNamed)
    if isNamed || !isPlain then pure none
    else
      let context ← inner.test
      if ← atWord "as" then return some (contexts ++ [context], true)
      else if ← acceptSign "," then return some (contexts ++ [context], false)
      else pure none) inner.bound ([], false)

/--
The items in the brackets behind `with`, if one of them is given a name; otherwise nothing is read.
-/
def namedItems? (inner : Inner) : Parser (Option (List WithItem)) := do
  let before ← get
  expectSign "("
  let (contexts, isNamed) ← contextsToName inner
  match contexts.getLast?, isNamed with
  | some context, true =>
    expectWord "as"
    let target ← inner.operand
    let more ←
      if ← acceptSign "," then
        if (← peekKind).any startsTest then
          Prod.fst <$> commaList inner.bound startsTest (withItem inner)
        else pure []
      else pure []
    expectSign ")"
    let unnamed := contexts.dropLast.map fun e => WithItem.mk e none
    return some (unnamed ++ ⟨context, some (setContext .store target)⟩ :: more)
  | _, _ =>
    set before
    pure none

/--
The items in the brackets behind `with`, if they are plain expressions and nothing but the colon
follows the brackets; otherwise nothing is read.
-/
def plainItems? (inner : Inner) : Parser (Option (List WithItem)) := do
  let before ← get
  match ← group inner followsFirstContext, ← atSign ":" with
  | .elements elts _ true, true => return some (elts.map fun e => ⟨e, none⟩)
  | _, _ =>
    set before
    pure none

/-- The items of a `with` statement, perhaps in brackets. -/
def withItems (inner : Inner) : Parser (List WithItem) := do
  let bracketed ←
    if ← atSign "(" then
      match ← namedItems? inner with
      | some items => pure (some items)
      | none => plainItems? inner
    else pure none
  match bracketed with
  | some items => pure items
  | none =>
    checkFirstContext
    separated inner.bound "," (withItem inner)
where
  /-- String literals at the start are judged by what may stand behind them there. -/
  checkFirstContext : Parser Unit := do
    match ← peekKind with
    | some (.string _) =>
      let before ← get
      let _ ← strings inner followsFirstContext
      set before
    | _ => pure ()

/-- A `with` statement, which starts at `start`; the next word is `with`. -/
def withStmt (inner : InnerBlock) (start : Nat) (isAsync : Bool) : Parser Stmt := do
  expectWord "with"
  let items ← withItems inner.exprs
  expectSign ":"
  let body ← suite inner
  return .withBlock ⟨start, blockEnd body start⟩ isAsync items body

/-- A function definition, which starts at `start`; the next word is `def`. -/
def functionStmt (inner : InnerBlock) (decorators : List Expr) (start : Nat) (isAsync : Bool) :
    Parser Stmt := do
  expectWord "def"
  let name ← identifier
  let types ← typeParams inner.exprs
  expectSign "("
  let params ← parameterList inner.exprs (typed inner.exprs) ")"
  expectSign ")"
  unless (← atSign ":") || (← atSign "->") do unexpected
  match repeatedParameter? params with
  | some offset => throw offset
  | none => pure ()
  let returns ← if ← acceptSign "->" then some <$> inner.exprs.test else pure none
  expectSign ":"
  let body ← suite inner
  return .functionDef ⟨start, blockEnd body start⟩ isAsync name params body decorators returns types

def classStmt (inner : InnerBlock) (decorators : List Expr) : Parser Stmt := do
  let start ← position
  expectWord "class"
  let name ← identifier
  let types ← typeParams inner.exprs
  let args ← if ← acceptSign "(" then arguments inner.exprs else pure []
  expectSign ":"
  let body ← suite inner
  return .classDef ⟨start, blockEnd body start⟩ name (positionalArguments args)
    (keywordArguments args) body decorators types

/-- Decorators and the definition behind them. -/
def decorated (inner : InnerBlock) : Parser Stmt := do
  let decorators ← repeated (do
    if ← acceptSign "@" then
      let decorator ← namedTest inner.exprs
      expectNewline
      pure (some decorator)
    else pure none) inner.exprs.bound
  let start ← position
  if ← atWord "class" then classStmt inner decorators
  else
    let isAsync ← acceptWord "async"
    functionStmt inner decorators start isAsync

/-- A statement behind `async`. -/
def asyncStmt (inner : InnerBlock) : Parser Stmt := do
  let start ← position
  expectWord "async"
  if ← atWord "def" then functionStmt inner [] start true
  else if ← atWord "for" then forStmt inner start true
  else withStmt inner start true

def matchCase (inner : InnerBlock) : Parser MatchCase := do
  expectWord "case"
  let pattern ← casePattern inner.patterns
  let guard ← if ← acceptWord "if" then some <$> namedTest inner.exprs else pure none
  expectSign ":"
  return ⟨pattern, guard, ← suite inner⟩

/--
The subject of a `match` statement: the only one itself, several as a tuple, which spans the
statement.
-/
def matchSubject (span : Span) : List Expr → Expr
  | [subject] => subject
  | subjects => .tuple span subjects .load

def matchStmt (inner : InnerBlock) : Parser Stmt := do
  let start ← position
  expectWord "match"
  let (subjects, _) ← commaList inner.exprs.bound startsStarTest (namedOrStar inner.exprs)
  expectSign ":"
  expectNewline
  expectIndent
  let first ← matchCase inner
  let rest ← repeated (do
    if ← atDedent then pure none else return some (← matchCase inner)) inner.exprs.bound
  expectDedent
  let cases := first :: rest
  let span : Span := ⟨start, blocksEnd (cases.map (·.body))⟩
  return .matchBlock span (matchSubject span subjects) cases

/-- A statement with blocks of its own, if one starts here. -/
def compoundStmt? (inner : InnerBlock) : Parser (Option Stmt) := do
  let start ← position
  match ← peekKind with
  | some (.word text) =>
    match text with
    | "if" => some <$> ifStmt inner
    | "while" => some <$> whileStmt inner
    | "for" => some <$> forStmt inner start false
    | "try" => some <$> tryStmt inner
    | "with" => some <$> withStmt inner start false
    | "def" => some <$> functionStmt inner [] start false
    | "class" => some <$> classStmt inner []
    | "async" => some <$> asyncStmt inner
    | "match" => some <$> matchStmt inner
    | _ => pure none
  | some (.sign "@") => some <$> decorated inner
  | _ => pure none

/-- A compound statement, or a line of small ones. -/
def statement (inner : InnerBlock) : Parser (List Stmt) := do
  match ← compoundStmt? inner with
  | some stmt => pure [stmt]
  | none => simpleLine inner.exprs

/-- Statements up to the end of the level. -/
def block (inner : InnerBlock) : Parser (List Stmt) := do
  let first ← statement inner
  let rest ← repeated (do
    if ← atDedent then pure none else return some (← statement inner)) inner.exprs.bound
  return first ++ rest.flatten

/-- The block rule at a nesting depth of at most `depth`. -/
def blockLevel : Nat → InnerBlock
  | 0 => ⟨level 0, patternLevel 0, unexpected⟩
  | depth + 1 =>
    ⟨level (depth + 1), patternLevel (depth + 1), fun cursor => block (blockLevel depth) cursor⟩

/-- A whole script. -/
def script (inner : InnerBlock) : Parser (List Stmt) := do
  let stmts ← repeated (do
    match ← peekKind with
    | none => pure none
    | some .newline =>
      advance
      pure (some [])
    | some _ => return some (← statement inner)) inner.exprs.bound
  return stmts.flatten

end VersionFloor.Script.Grammar
