import VersionFloor.Analysis.Node
import VersionFloor.Feature

set_option autoImplicit false

namespace VersionFloor.Analysis

open Script

/-- The text of a name or of attributes of attributes of one, with dots between the names. -/
def dotted? : Expr → Option String
  | .name _ id _ => some id
  | .attribute _ value attr _ => (dotted? value).map fun base => base ++ "." ++ attr
  | _ => none

/-- A dotted text up to its first dot. -/
def rootOf (name : String) : String :=
  String.ofList (name.toList.takeWhile (· ≠ '.'))

/-- A dotted text from its first dot on; a text without dots has nothing there. -/
def afterRoot (name : String) : String :=
  String.ofList (name.toList.dropWhile (· ≠ '.'))

/-- One thing to look up or to remember. -/
inductive Trigger
  /-- A feature that is there. -/
  | feature (feature : Feature)
  /-- The names in a type hint, of which there is at least one. -/
  | hint (names : List String)
  | function (name : String)
  | exception (name : String)
  | importName (name : String)
  /-- The dotted text of attributes of a name. -/
  | chain (name : String)
  | bind (name origin : String)
deriving DecidableEq

namespace Trigger

mutual

/-- The names that a type hint refers to, through subscripts, alternatives and tuples. -/
def hintNames : Expr → List String
  | .name _ id _ => [id]
  | .attribute span value attr ctx => (dotted? (.attribute span value attr ctx)).toList
  | .subscript _ value slice _ => hintNames value ++ hintNames slice
  | .binary _ left .bitOr right => hintNames left ++ hintNames right
  | .tuple _ elts _ => listedNames elts
  | _ => []

def listedNames : List Expr → List String
  | [] => []
  | first :: rest => hintNames first ++ listedNames rest

end

mutual

/-- The number of alternatives `X | Y` in a type hint. -/
def hintUnions : Expr → Nat
  | .subscript _ value slice _ => hintUnions value + hintUnions slice
  | .binary _ left .bitOr right => 1 + hintUnions left + hintUnions right
  | .tuple _ elts _ => listedUnions elts
  | _ => 0

def listedUnions : List Expr → Nat
  | [] => 0
  | first :: rest => hintUnions first + listedUnions rest

end

/-- A type hint: its alternatives, then its names. -/
def ofHint (e : Expr) : List Trigger :=
  let names := hintNames e
  List.replicate (hintUnions e) (feature .unionOperator) ++
    if names.isEmpty then [] else [hint names]

def ofOptionalHint (e : Option Expr) : List Trigger :=
  e.toList.flatMap ofHint

/-- The name of an exception, if the expression is one. -/
def ofExceptionName : Expr → List Trigger
  | .name _ id _ => [exception id]
  | _ => []

/-- `import M` looks `M` up; `import M as X` binds `X` to it too. -/
def ofImport (names : List Alias) : List Trigger :=
  names.flatMap fun a => importName a.name :: a.asName.toList.map fun name => bind name a.name

/--
`from M import A` looks up `M` and `M.A` and binds the local name of `A` to the latter;
`from M import *` looks up `M` alone.
-/
def ofImportFrom (origin : String) (names : List Alias) : List Trigger :=
  names.flatMap fun a =>
    if a.name = "*" then [importName origin]
    else
      let qualified := origin ++ "." ++ a.name
      [bind (a.asName.getD a.name) qualified, importName origin, importName qualified]

def ofStmt : Stmt → List Trigger
  | .functionDef _ isAsync _ _ _ _ returns _ =>
    (if isAsync then [feature .asyncAndAwait] else []) ++ ofOptionalHint returns
  | .annAssign _ _ type _ _ => feature .variableHints :: ofHint type
  | .forLoop _ isAsync _ _ _ _ => if isAsync then [feature .asyncAndAwait] else []
  | .withBlock _ isAsync items _ =>
    if isAsync then [feature .asyncAndAwait]
    else if 1 < items.length then [feature .multipleContextManagers] else []
  | .matchBlock _ _ _ => [feature .patternMatching]
  | .importModules _ names => ofImport names
  | .importFrom _ (some origin) names _ => ofImportFrom origin names
  | .raise _ (some (.call _ func _ _)) _ => ofExceptionName func
  | .raise _ (some exc) _ => ofExceptionName exc
  | _ => []

def ofExpr : Expr → List Trigger
  | .attribute span value attr ctx =>
    match dotted? (.attribute span value attr ctx) with
    | some name => if rootOf name = "self" then [] else [chain name]
    | none => []
  | .call _ (.name _ id _) _ _ => [function id]
  | .constant _ _ unicode => if unicode then [feature .unicodeLiterals] else []
  | .joined _ _ => [feature .formattedLiterals]
  | .named _ _ _ => [feature .assignmentExpressions]
  | .yieldFrom _ _ => [feature .yieldFrom]
  | .await _ _ => [feature .asyncAndAwait]
  | _ => []

/--
Parameters before a slash, and the hints: those of single parameters first, then those of the rest.
-/
def ofParameters (p : Parameters) : List Trigger :=
  (if p.positionalOnly.isEmpty then [] else [feature .positionalOnly])
    ++ (p.positionalOnly ++ p.positional ++ p.keywordOnly).flatMap
      (fun q => ofOptionalHint q.arg.hint)
    ++ (p.variadic.toList ++ p.keywords.toList).flatMap (fun a => ofOptionalHint a.hint)

/-- The exceptions that a handler names. -/
def ofHandler (h : ExceptHandler) : List Trigger :=
  match h.type with
  | some (.tuple _ elts _) => elts.flatMap ofExceptionName
  | some type => ofExceptionName type
  | none => []

end Trigger

/-- What a node triggers by itself, in order. -/
def Node.triggers : Node → List Trigger
  | stmt s => Trigger.ofStmt s
  | expr e => Trigger.ofExpr e
  | parameters p => Trigger.ofParameters p
  | comprehension c => if c.isAsync then [.feature .asyncComprehensions] else []
  | handler h => Trigger.ofHandler h
  | _ => []

end VersionFloor.Analysis
