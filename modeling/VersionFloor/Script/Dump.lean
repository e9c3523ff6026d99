import VersionFloor.Script.Tree
import VersionFloor.Script.Layout
import VersionFloor.Text.Quoted
import VersionFloor.Number.Shortest

set_option autoImplicit false

namespace VersionFloor.Script

open Layout (leaf tagged record items option)

def Span.layout (span : Span) : Layout :=
  leaf (toString span.start ++ ".." ++ toString span.stop)

def Context.layout : Context → Layout
  | load => leaf "Load"
  | store => leaf "Store"
  | del => leaf "Del"

def BoolOp.layout : BoolOp → Layout
  | and => leaf "And"
  | or => leaf "Or"

def Operator.layout : Operator → Layout
  | add => leaf "Add"
  | sub => leaf "Sub"
  | mult => leaf "Mult"
  | matMult => leaf "MatMult"
  | div => leaf "Div"
  | mod => leaf "Mod"
  | pow => leaf "Pow"
  | lShift => leaf "LShift"
  | rShift => leaf "RShift"
  | bitOr => leaf "BitOr"
  | bitXor => leaf "BitXor"
  | bitAnd => leaf "BitAnd"
  | floorDiv => leaf "FloorDiv"

def UnaryOp.layout : UnaryOp → Layout
  | invert => leaf "Invert"
  | not => leaf "Not"
  | uAdd => leaf "UAdd"
  | uSub => leaf "USub"

def CompareOp.layout : CompareOp → Layout
  | eq => leaf "Eq"
  | notEq => leaf "NotEq"
  | lt => leaf "Lt"
  | ltE => leaf "LtE"
  | gt => leaf "Gt"
  | gtE => leaf "GtE"
  | is => leaf "Is"
  | isNot => leaf "IsNot"
  | isIn => leaf "In"
  | notIn => leaf "NotIn"

def Conversion.layout : Conversion → Layout
  | none => leaf "None"
  | str => leaf "Str"
  | ascii => leaf "Ascii"
  | repr => leaf "Repr"

namespace Dump

def nat (n : Nat) : Layout :=
  leaf (toString n)

def bool (b : Bool) : Layout :=
  leaf (if b then "true" else "false")

def text (s : String) : Layout :=
  leaf (Text.quoted s)

def float (x : Float) : Layout :=
  leaf (Number.floatText (.mixed (-4) false) x)

def identifier (name : String) : Layout :=
  tagged "Identifier" (text name)

def optionalIdentifier (name : Option String) : Layout :=
  option (name.map identifier)

/-- The record of a node: its kind and the range, then the other fields. -/
def nodeRecord (tag : String) (span : Span) (fields : List (String × Layout)) : Layout :=
  record tag (("range", span.layout) :: fields)

/-- The record of a node that has no range. -/
def plainRecord (tag : String) (fields : List (String × Layout)) : Layout :=
  record tag (("range", leaf "()") :: fields)

/-- A node of the family `family`: its kind around its record. -/
def node (family kind : String) (span : Span) (fields : List (String × Layout)) : Layout :=
  tagged kind (nodeRecord (family ++ kind) span fields)

end Dump

open Dump

def Literal.layout : Literal → Layout
  | none => leaf "None"
  | bool value => tagged "Bool" (Dump.bool value)
  | str value => tagged "Str" (text value)
  | bytes value => tagged "Bytes" (items (value.map fun b => nat b.toNat))
  | int value => tagged "Int" (nat value)
  | float value => tagged "Float" (Dump.float value)
  | imaginary value => record "Complex" [("real", leaf "0.0"), ("imag", Dump.float value)]
  | ellipsis => leaf "Ellipsis"

mutual

def Expr.layout : Expr → Layout
  | .boolOp span op values =>
    node "Expr" "BoolOp" span [("op", op.layout), ("values", items (Expr.layouts values))]
  | .named span target value =>
    node "Expr" "NamedExpr" span [("target", target.layout), ("value", value.layout)]
  | .binary span left op right =>
    node "Expr" "BinOp" span [("left", left.layout), ("op", op.layout), ("right", right.layout)]
  | .unary span op operand =>
    node "Expr" "UnaryOp" span [("op", op.layout), ("operand", operand.layout)]
  | .lambda span params body =>
    node "Expr" "Lambda" span [("args", params.layout), ("body", body.layout)]
  | .ifElse span test body orelse =>
    node "Expr" "IfExp" span
      [("test", test.layout), ("body", body.layout), ("orelse", orelse.layout)]
  | .dict span entries =>
    node "Expr" "Dict" span
      [("keys", items (DictEntry.keyLayouts entries)),
       ("values", items (DictEntry.valueLayouts entries))]
  | .set span elts => node "Expr" "Set" span [("elts", items (Expr.layouts elts))]
  | .listComp span elt generators =>
    node "Expr" "ListComp" span
      [("elt", elt.layout), ("generators", items (Comprehension.layouts generators))]
  | .setComp span elt generators =>
    node "Expr" "SetComp" span
      [("elt", elt.layout), ("generators", items (Comprehension.layouts generators))]
  | .dictComp span key value generators =>
    node "Expr" "DictComp" span
      [("key", key.layout), ("value", value.layout),
       ("generators", items (Comprehension.layouts generators))]
  | .generator span elt generators =>
    node "Expr" "GeneratorExp" span
      [("elt", elt.layout), ("generators", items (Comprehension.layouts generators))]
  | .await span value => node "Expr" "Await" span [("value", value.layout)]
  | .yield span value => node "Expr" "Yield" span [("value", Expr.optionLayout value)]
  | .yieldFrom span value => node "Expr" "YieldFrom" span [("value", value.layout)]
  | .compare span left ops comparators =>
    node "Expr" "Compare" span
      [("left", left.layout), ("ops", items (ops.map CompareOp.layout)),
       ("comparators", items (Expr.layouts comparators))]
  | .call span func args keywords =>
    node "Expr" "Call" span
      [("func", func.layout), ("args", items (Expr.layouts args)),
       ("keywords", items (Keyword.layouts keywords))]
  | .formatted span value conversion format =>
    node "Expr" "FormattedValue" span
      [("value", value.layout), ("conversion", conversion.layout),
       ("format_spec", Expr.optionLayout format)]
  | .joined span values => node "Expr" "JoinedStr" span [("values", items (Expr.layouts values))]
  | .constant span value unicode =>
    node "Expr" "Constant" span
      [("value", value.layout), ("kind", option (if unicode then some (text "u") else none))]
  | .attribute span value attr ctx =>
    node "Expr" "Attribute" span
      [("value", value.layout), ("attr", identifier attr), ("ctx", ctx.layout)]
  | .subscript span value slice ctx =>
    node "Expr" "Subscript" span
      [("value", value.layout), ("slice", slice.layout), ("ctx", ctx.layout)]
  | .starred span value ctx =>
    node "Expr" "Starred" span [("value", value.layout), ("ctx", ctx.layout)]
  | .name span id ctx => node "Expr" "Name" span [("id", identifier id), ("ctx", ctx.layout)]
  | .list span elts ctx =>
    node "Expr" "List" span [("elts", items (Expr.layouts elts)), ("ctx", ctx.layout)]
  | .tuple span elts ctx =>
    node "Expr" "Tuple" span [("elts", items (Expr.layouts elts)), ("ctx", ctx.layout)]
  | .slice span lower upper step =>
    node "Expr" "Slice" span
      [("lower", Expr.optionLayout lower), ("upper", Expr.optionLayout upper),
       ("step", Expr.optionLayout step)]

def Expr.optionLayout : Option Expr → Layout
  | none => leaf "None"
  | some e => tagged "Some" e.layout

def Expr.layouts : List Expr → List Layout
  | [] => []
  | first :: rest => first.layout :: Expr.layouts rest

def DictEntry.keyLayout : DictEntry → Layout
  | ⟨key, _⟩ => Expr.optionLayout key

def DictEntry.valueLayout : DictEntry → Layout
  | ⟨_, value⟩ => value.layout

def DictEntry.keyLayouts : List DictEntry → List Layout
  | [] => []
  | first :: rest => first.keyLayout :: DictEntry.keyLayouts rest

def DictEntry.valueLayouts : List DictEntry → List Layout
  | [] => []
  | first :: rest => first.valueLayout :: DictEntry.valueLayouts rest

def Comprehension.layout : Comprehension → Layout
  | ⟨target, iter, ifs, isAsync⟩ =>
    plainRecord "Comprehension"
      [("target", target.layout), ("iter", iter.layout), ("ifs", items (Expr.layouts ifs)),
       ("is_async", Dump.bool isAsync)]

def Comprehension.layouts : List Comprehension → List Layout
  | [] => []
  | first :: rest => first.layout :: Comprehension.layouts rest

def Keyword.layout : Keyword → Layout
  | ⟨span, arg, value⟩ =>
    nodeRecord "Keyword" span [("arg", optionalIdentifier arg), ("value", value.layout)]

def Keyword.layouts : List Keyword → List Layout
  | [] => []
  | first :: rest => first.layout :: Keyword.layouts rest

def Argument.layout : Argument → Layout
  | ⟨span, name, hint⟩ =>
    nodeRecord "Arg" span
      [("arg", identifier name), ("annotation", Expr.optionLayout hint),
       ("type_comment", leaf "None")]

def Argument.optionLayout : Option Argument → Layout
  | none => leaf "None"
  | some arg => tagged "Some" arg.layout

def Parameter.layout : Parameter → Layout
  | ⟨arg, default⟩ =>
    plainRecord "ArgWithDefault"
      [("def", arg.layout), ("default", Expr.optionLayout default)]

def Parameter.layouts : List Parameter → List Layout
  | [] => []
  | first :: rest => first.layout :: Parameter.layouts rest

def Parameters.layout : Parameters → Layout
  | ⟨positionalOnly, positional, variadic, keywordOnly, keywords⟩ =>
    plainRecord "Arguments"
      [("posonlyargs", items (Parameter.layouts positionalOnly)),
       ("args", items (Parameter.layouts positional)),
       ("vararg", Argument.optionLayout variadic),
       ("kwonlyargs", items (Parameter.layouts keywordOnly)),
       ("kwarg", Argument.optionLayout keywords)]

end

mutual

def Pattern.layout : Pattern → Layout
  | .value span e => node "Pattern" "MatchValue" span [("value", e.layout)]
  | .singleton span literal => node "Pattern" "MatchSingleton" span [("value", literal.layout)]
  | .sequence span patterns =>
    node "Pattern" "MatchSequence" span [("patterns", items (Pattern.layouts patterns))]
  | .mapping span keys patterns rest =>
    node "Pattern" "MatchMapping" span
      [("keys", items (Expr.layouts keys)), ("patterns", items (Pattern.layouts patterns)),
       ("rest", optionalIdentifier rest)]
  | .classOf span cls patterns names keywordPatterns =>
    node "Pattern" "MatchClass" span
      [("cls", cls.layout), ("patterns", items (Pattern.layouts patterns)),
       ("kwd_attrs", items (names.map identifier)),
       ("kwd_patterns", items (Pattern.layouts keywordPatterns))]
  | .star span name => node "Pattern" "MatchStar" span [("name", optionalIdentifier name)]
  | .capture span pattern name =>
    node "Pattern" "MatchAs" span
      [("pattern", Pattern.optionLayout pattern), ("name", optionalIdentifier name)]
  | .or span patterns =>
    node "Pattern" "MatchOr" span [("patterns", items (Pattern.layouts patterns))]

def Pattern.optionLayout : Option Pattern → Layout
  | none => leaf "None"
  | some pattern => tagged "Some" pattern.layout

def Pattern.layouts : List Pattern → List Layout
  | [] => []
  | first :: rest => first.layout :: Pattern.layouts rest

end

def TypeParam.layout : TypeParam → Layout
  | .typeVar span name bound =>
    node "TypeParam" "TypeVar" span
      [("name", identifier name), ("bound", Expr.optionLayout bound)]
  | .paramSpec span name => node "TypeParam" "ParamSpec" span [("name", identifier name)]
  | .typeVarTuple span name => node "TypeParam" "TypeVarTuple" span [("name", identifier name)]

def Alias.layout (given : Alias) : Layout :=
  nodeRecord "Alias" given.span
    [("name", identifier given.name), ("asname", optionalIdentifier given.asName)]

def WithItem.layout (item : WithItem) : Layout :=
  plainRecord "WithItem"
    [("context_expr", item.context.layout), ("optional_vars", Expr.optionLayout item.target)]

mutual

def Stmt.layout : Stmt → Layout
  | .functionDef span isAsync name params body decorators returns typeParams =>
    node "Stmt" (if isAsync then "AsyncFunctionDef" else "FunctionDef") span
      [("name", identifier name), ("args", params.layout), ("body", items (body.map Stmt.layout)),
       ("decorator_list", items (decorators.map Expr.layout)),
       ("returns", Expr.optionLayout returns), ("type_comment", leaf "None"),
       ("type_params", items (typeParams.map TypeParam.layout))]
  | .classDef span name bases keywords body decorators typeParams =>
    node "Stmt" "ClassDef" span
      [("name", identifier name), ("bases", items (bases.map Expr.layout)),
       ("keywords", items (keywords.map Keyword.layout)), ("body", items (body.map Stmt.layout)),
       ("decorator_list", items (decorators.map Expr.layout)),
       ("type_params", items (typeParams.map TypeParam.layout))]
  | .returnValue span value =>
    node "Stmt" "Return" span [("value", Expr.optionLayout value)]
  | .delete span targets =>
    node "Stmt" "Delete" span [("targets", items (targets.map Expr.layout))]
  | .assign span targets value =>
    node "Stmt" "Assign" span
      [("targets", items (targets.map Expr.layout)), ("value", value.layout),
       ("type_comment", leaf "None")]
  | .typeAlias span name typeParams value =>
    node "Stmt" "TypeAlias" span
      [("name", name.layout), ("type_params", items (typeParams.map TypeParam.layout)),
       ("value", value.layout)]
  | .augAssign span target op value =>
    node "Stmt" "AugAssign" span
      [("target", target.layout), ("op", op.layout), ("value", value.layout)]
  | .annAssign span target hint value simple =>
    node "Stmt" "AnnAssign" span
      [("target", target.layout), ("annotation", hint.layout),
       ("value", Expr.optionLayout value), ("simple", Dump.bool simple)]
  | .forLoop span isAsync target iter body orelse =>
    node "Stmt" (if isAsync then "AsyncFor" else "For") span
      [("target", target.layout), ("iter", iter.layout), ("body", items (body.map Stmt.layout)),
       ("orelse", items (orelse.map Stmt.layout)), ("type_comment", leaf "None")]
  | .whileLoop span test body orelse =>
    node "Stmt" "While" span
      [("test", test.layout), ("body", items (body.map Stmt.layout)),
       ("orelse", items (orelse.map Stmt.layout))]
  | .conditional span test body orelse =>
    node "Stmt" "If" span
      [("test", test.layout), ("body", items (body.map Stmt.layout)),
       ("orelse", items (orelse.map Stmt.layout))]
  | .withBlock span isAsync withItems body =>
    node "Stmt" (if isAsync then "AsyncWith" else "With") span
      [("items", items (withItems.map WithItem.layout)), ("body", items (body.map Stmt.layout)),
       ("type_comment", leaf "None")]
  | .matchBlock span subject cases =>
    node "Stmt" "Match" span
      [("subject", subject.layout), ("cases", items (cases.map MatchCase.layout))]
  | .raise span exc cause =>
    node "Stmt" "Raise" span
      [("exc", Expr.optionLayout exc), ("cause", Expr.optionLayout cause)]
  | .tryBlock span isStar body handlers orelse finalbody =>
    node "Stmt" (if isStar then "TryStar" else "Try") span
      [("body", items (body.map Stmt.layout)),
       ("handlers", items (handlers.map fun h => tagged "ExceptHandler" h.layout)),
       ("orelse", items (orelse.map Stmt.layout)), ("finalbody", items (finalbody.map Stmt.layout))]
  | .assert span test msg =>
    node "Stmt" "Assert" span [("test", test.layout), ("msg", Expr.optionLayout msg)]
  | .importModules span names =>
    node "Stmt" "Import" span [("names", items (names.map Alias.layout))]
  | .importFrom span origin names level =>
    node "Stmt" "ImportFrom" span
      [("module", optionalIdentifier origin), ("names", items (names.map Alias.layout)),
       ("level", option (some (tagged "Int" (nat level))))]
  | .global span names => node "Stmt" "Global" span [("names", items (names.map identifier))]
  | .nonlocal span names => node "Stmt" "Nonlocal" span [("names", items (names.map identifier))]
  | .expr span value => node "Stmt" "Expr" span [("value", value.layout)]
  | .pass span => node "Stmt" "Pass" span []
  | .breakLoop span => node "Stmt" "Break" span []
  | .continueLoop span => node "Stmt" "Continue" span []

def ExceptHandler.layout : ExceptHandler → Layout
  | ⟨span, type, name, body⟩ =>
    nodeRecord "ExceptHandlerExceptHandler" span
      [("type_", Expr.optionLayout type), ("name", optionalIdentifier name),
       ("body", items (body.map Stmt.layout))]

def MatchCase.layout : MatchCase → Layout
  | ⟨pattern, guard, body⟩ =>
    plainRecord "MatchCase"
      [("pattern", pattern.layout), ("guard", Expr.optionLayout guard),
       ("body", items (body.map Stmt.layout))]

end

/-- The name of a statement's kind. -/
def Stmt.kindName : Stmt → String
  | .functionDef _ isAsync .. => if isAsync then "AsyncFunctionDef" else "FunctionDef"
  | .classDef .. => "ClassDef"
  | .returnValue .. => "Return"
  | .delete .. => "Delete"
  | .assign .. => "Assign"
  | .typeAlias .. => "TypeAlias"
  | .augAssign .. => "AugAssign"
  | .annAssign .. => "AnnAssign"
  | .forLoop _ isAsync .. => if isAsync then "AsyncFor" else "For"
  | .whileLoop .. => "While"
  | .conditional .. => "If"
  | .withBlock _ isAsync .. => if isAsync then "AsyncWith" else "With"
  | .matchBlock .. => "Match"
  | .raise .. => "Raise"
  | .tryBlock _ isStar .. => if isStar then "TryStar" else "Try"
  | .assert .. => "Assert"
  | .importModules .. => "Import"
  | .importFrom .. => "ImportFrom"
  | .global .. => "Global"
  | .nonlocal .. => "Nonlocal"
  | .expr .. => "Expr"
  | .pass .. => "Pass"
  | .breakLoop .. => "Break"
  | .continueLoop .. => "Continue"

/-- The display form of a script: its statements one below the other. -/
def dump (body : List Stmt) : String :=
  "\n".intercalate (body.map fun stmt => stmt.layout.render 0)

end VersionFloor.Script
