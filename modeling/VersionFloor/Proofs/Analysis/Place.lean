import VersionFloor.Proofs.Analysis.Traversal

set_option autoImplicit false

namespace VersionFloor.Analysis

open Script

/-- The parts of nodes that hold other nodes. -/
inductive Field
  | params | body | decorators | returns | typeParams | bases | keywords | value | targets | target
  | hint | iter | orelse | test | items | subject | cases | exc | cause | handlers | finalbody | msg
  | name | values | left | right | operand | keys | elts | elt | generators | key | comparators
  | func | args | format | slice | lower | upper | step | ifs | type | context | pattern | guard
  | patterns | keywordPatterns | cls | bound
  | positionalOnlyHint | positionalOnlyDefault | positionalHint | positionalDefault | variadicHint
  | keywordOnlyHint | keywordOnlyDefault | keywordsHint
deriving DecidableEq

abbrev Step := Field × Nat

/-- A way down a tree. -/
abbrev Place := List Step

/-- What the positions of fields hold; a position whose part is absent holds nothing. -/
abbrev Fields := List (Field × List (Option Node))

namespace Fields

def one (node : Node) : List (Option Node) :=
  [some node]

def maybe (e : Option Expr) : List (Option Node) :=
  [e.map .expr]

def many {α : Type} (node : α → Node) (parts : List α) : List (Option Node) :=
  parts.map fun part => some (node part)

def each {α : Type} (expr? : α → Option Expr) (parts : List α) : List (Option Node) :=
  parts.map fun part => (expr? part).map .expr

def ofStmt : Stmt → Fields
  | .functionDef _ _ _ params body decorators returns typeParams =>
    [(.params, one (.parameters params)), (.body, many .stmt body),
     (.decorators, many .expr decorators),
     (.returns, maybe returns), (.typeParams, many .typeParam typeParams)]
  | .classDef _ _ bases keywords body decorators typeParams =>
    [(.bases, many .expr bases), (.keywords, many .keyword keywords), (.body, many .stmt body),
     (.decorators, many .expr decorators), (.typeParams, many .typeParam typeParams)]
  | .returnValue _ value => [(.value, maybe value)]
  | .delete _ targets => [(.targets, many .expr targets)]
  | .assign _ targets value => [(.targets, many .expr targets), (.value, one (.expr value))]
  | .typeAlias _ name typeParams value =>
    [(.name, one (.expr name)), (.typeParams, many .typeParam typeParams),
     (.value, one (.expr value))]
  | .augAssign _ target _ value => [(.target, one (.expr target)), (.value, one (.expr value))]
  | .annAssign _ target hint value _ =>
    [(.target, one (.expr target)), (.hint, one (.expr hint)), (.value, maybe value)]
  | .forLoop _ _ target iter body orelse =>
    [(.target, one (.expr target)), (.iter, one (.expr iter)), (.body, many .stmt body),
     (.orelse, many .stmt orelse)]
  | .whileLoop _ test body orelse =>
    [(.test, one (.expr test)), (.body, many .stmt body), (.orelse, many .stmt orelse)]
  | .conditional _ test body orelse =>
    [(.test, one (.expr test)), (.body, many .stmt body), (.orelse, many .stmt orelse)]
  | .withBlock _ _ items body => [(.items, many .withItem items), (.body, many .stmt body)]
  | .matchBlock _ subject cases =>
    [(.subject, one (.expr subject)), (.cases, many .matchCase cases)]
  | .raise _ exc cause => [(.exc, maybe exc), (.cause, maybe cause)]
  | .tryBlock _ _ body handlers orelse finalbody =>
    [(.body, many .stmt body), (.handlers, many .handler handlers), (.orelse, many .stmt orelse),
     (.finalbody, many .stmt finalbody)]
  | .assert _ test msg => [(.test, one (.expr test)), (.msg, maybe msg)]
  | .importModules _ _ => []
  | .importFrom _ _ _ _ => []
  | .global _ _ => []
  | .nonlocal _ _ => []
  | .expr _ value => [(.value, one (.expr value))]
  | .pass _ => []
  | .breakLoop _ => []
  | .continueLoop _ => []

def ofExpr : Expr → Fields
  | .boolOp _ _ values => [(.values, many .expr values)]
  | .named _ target value => [(.target, one (.expr target)), (.value, one (.expr value))]
  | .binary _ left _ right => [(.left, one (.expr left)), (.right, one (.expr right))]
  | .unary _ _ operand => [(.operand, one (.expr operand))]
  | .lambda _ params body => [(.params, one (.parameters params)), (.body, one (.expr body))]
  | .ifElse _ test body orelse =>
    [(.test, one (.expr test)), (.body, one (.expr body)), (.orelse, one (.expr orelse))]
  | .dict _ entries =>
    [(.keys, each DictEntry.key entries), (.values, many (fun d => .expr d.value) entries)]
  | .set _ elts => [(.elts, many .expr elts)]
  | .listComp _ elt generators =>
    [(.elt, one (.expr elt)), (.generators, many .comprehension generators)]
  | .setComp _ elt generators =>
    [(.elt, one (.expr elt)), (.generators, many .comprehension generators)]
  | .dictComp _ key value generators =>
    [(.key, one (.expr key)), (.value, one (.expr value)),
     (.generators, many .comprehension generators)]
  | .generator _ elt generators =>
    [(.elt, one (.expr elt)), (.generators, many .comprehension generators)]
  | .await _ value => [(.value, one (.expr value))]
  | .yield _ value => [(.value, maybe value)]
  | .yieldFrom _ value => [(.value, one (.expr value))]
  | .compare _ left _ comparators =>
    [(.left, one (.expr left)), (.comparators, many .expr comparators)]
  | .call _ func args keywords =>
    [(.func, one (.expr func)), (.args, many .expr args), (.keywords, many .keyword keywords)]
  | .formatted _ value _ format => [(.value, one (.expr value)), (.format, maybe format)]
  | .joined _ values => [(.values, many .expr values)]
  | .constant _ _ _ => []
  | .attribute _ value _ _ => [(.value, one (.expr value))]
  | .subscript _ value slice _ => [(.value, one (.expr value)), (.slice, one (.expr slice))]
  | .starred _ value _ => [(.value, one (.expr value))]
  | .name _ _ _ => []
  | .list _ elts _ => [(.elts, many .expr elts)]
  | .tuple _ elts _ => [(.elts, many .expr elts)]
  | .slice _ lower upper step => [(.lower, maybe lower), (.upper, maybe upper), (.step, maybe step)]

def ofPattern : Pattern → Fields
  | .value _ value => [(.value, one (.expr value))]
  | .singleton _ _ => []
  | .sequence _ patterns => [(.patterns, many .pattern patterns)]
  | .mapping _ keys patterns _ => [(.keys, many .expr keys), (.patterns, many .pattern patterns)]
  | .classOf _ cls patterns _ keywordPatterns =>
    [(.cls, one (.expr cls)), (.patterns, many .pattern patterns),
     (.keywordPatterns, many .pattern keywordPatterns)]
  | .star _ _ => []
  | .capture _ inner _ => [(.pattern, [inner.map .pattern])]
  | .or _ patterns => [(.patterns, many .pattern patterns)]

/-- Each parameter has a hint and a default, the two that take the remaining arguments a hint. -/
def ofParameters (p : Parameters) : Fields :=
  [(.positionalOnlyHint, each (·.arg.hint) p.positionalOnly),
   (.positionalOnlyDefault, each (·.default) p.positionalOnly),
   (.positionalHint, each (·.arg.hint) p.positional),
   (.positionalDefault, each (·.default) p.positional),
   (.variadicHint, maybe (p.variadic.bind (·.hint))),
   (.keywordOnlyHint, each (·.arg.hint) p.keywordOnly),
   (.keywordOnlyDefault, each (·.default) p.keywordOnly),
   (.keywordsHint, maybe (p.keywords.bind (·.hint)))]

def ofNode : Node → Fields
  | .stmt s => ofStmt s
  | .expr e => ofExpr e
  | .parameters p => ofParameters p
  | .comprehension c =>
    [(.target, one (.expr c.target)), (.iter, one (.expr c.iter)), (.ifs, many .expr c.ifs)]
  | .handler h => [(.type, maybe h.type), (.body, many .stmt h.body)]
  | .withItem i => [(.context, one (.expr i.context)), (.target, maybe i.target)]
  | .matchCase c =>
    [(.pattern, one (.pattern c.pattern)), (.guard, maybe c.guard), (.body, many .stmt c.body)]
  | .pattern p => ofPattern p
  | .keyword k => [(.value, one (.expr k.value))]
  | .typeParam (.typeVar _ _ bound) => [(.bound, maybe bound)]
  | .typeParam (.paramSpec _ _) => []
  | .typeParam (.typeVarTuple _ _) => []

def ofScript (body : List Stmt) : Fields :=
  [(.body, many .stmt body)]

def at? (fields : Fields) (step : Step) : Option Node :=
  ((fields.lookup step.1).bind (·[step.2]?)).join

end Fields

def Node.at? (node : Node) : Place → Option Node
  | [] => some node
  | step :: path => ((Fields.ofNode node).at? step).bind (·.at? path)

/-- The node at a place of a script. -/
def nodeAt? (body : List Stmt) : Place → Option Node
  | [] => none
  | step :: path => ((Fields.ofScript body).at? step).bind (·.at? path)

theorem Node.at?_append {node found : Node} {place : Place} (reached : node.at? place = some found)
    (path : Place) : node.at? (place ++ path) = found.at? path := by
  induction place generalizing node with
  | nil =>
    cases reached
    rfl
  | cons step rest ih =>
    obtain ⟨child, below, lower⟩ := Option.bind_eq_some_iff.1 reached
    rw [List.cons_append, Node.at?, below]
    exact ih lower

/-- A path on from a place goes down from the node there. -/
theorem nodeAt?_append {body : List Stmt} {node : Node} {place : Place}
    (reached : nodeAt? body place = some node) (path : Place) :
    nodeAt? body (place ++ path) = node.at? path := by
  cases place with
  | nil => cases reached
  | cons step rest =>
    obtain ⟨child, below, lower⟩ := Option.bind_eq_some_iff.1 reached
    rw [List.cons_append, nodeAt?, below]
    exact Node.at?_append lower path

end VersionFloor.Analysis
