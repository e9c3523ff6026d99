set_option autoImplicit false

namespace VersionFloor.Script

/-- The bytes `[start, stop)` of the script text. -/
structure Span where
  start : Nat
  stop : Nat

/-- How a name, attribute, item or display of them is used. -/
inductive Context
  | load | store | del

inductive BoolOp
  | and | or

inductive Operator
  | add | sub | mult | matMult | div | mod | pow | lShift | rShift | bitOr | bitXor | bitAnd
  | floorDiv

inductive UnaryOp
  | invert | not | uAdd | uSub

inductive CompareOp
  | eq | notEq | lt | ltE | gt | gtE | is | isNot | isIn | notIn

/-- The conversion a replacement field applies to its value. -/
inductive Conversion
  | none | str | ascii | repr

inductive Literal
  | none
  | bool (value : Bool)
  | str (value : String)
  | bytes (value : List UInt8)
  | int (value : Nat)
  | float (value : Float)
  | imaginary (value : Float)
  | ellipsis

mutual

inductive Expr
  | boolOp (span : Span) (op : BoolOp) (values : List Expr)
  | named (span : Span) (target value : Expr)
  | binary (span : Span) (left : Expr) (op : Operator) (right : Expr)
  | unary (span : Span) (op : UnaryOp) (operand : Expr)
  | lambda (span : Span) (params : Parameters) (body : Expr)
  | ifElse (span : Span) (test body orelse : Expr)
  | dict (span : Span) (entries : List DictEntry)
  | set (span : Span) (elts : List Expr)
  | listComp (span : Span) (elt : Expr) (generators : List Comprehension)
  | setComp (span : Span) (elt : Expr) (generators : List Comprehension)
  | dictComp (span : Span) (key value : Expr) (generators : List Comprehension)
  | generator (span : Span) (elt : Expr) (generators : List Comprehension)
  | await (span : Span) (value : Expr)
  | yield (span : Span) (value : Option Expr)
  | yieldFrom (span : Span) (value : Expr)
  | compare (span : Span) (left : Expr) (ops : List CompareOp) (comparators : List Expr)
  | call (span : Span) (func : Expr) (args : List Expr) (keywords : List Keyword)
  | formatted (span : Span) (value : Expr) (conversion : Conversion) (format : Option Expr)
  | joined (span : Span) (values : List Expr)
  /-- A literal; `unicode` holds when it was written with the prefix `u`. -/
  | constant (span : Span) (value : Literal) (unicode : Bool)
  | attribute (span : Span) (value : Expr) (attr : String) (ctx : Context)
  | subscript (span : Span) (value slice : Expr) (ctx : Context)
  | starred (span : Span) (value : Expr) (ctx : Context)
  | name (span : Span) (id : String) (ctx : Context)
  | list (span : Span) (elts : List Expr) (ctx : Context)
  | tuple (span : Span) (elts : List Expr) (ctx : Context)
  | slice (span : Span) (lower upper step : Option Expr)

/-- A key with its value; without a key the value is an unpacked mapping. -/
structure DictEntry where
  key : Option Expr
  value : Expr

/-- One `for … in … if …` clause. -/
structure Comprehension where
  target : Expr
  iter : Expr
  ifs : List Expr
  isAsync : Bool

/-- A keyword argument; without a name it is an unpacked mapping. -/
structure Keyword where
  span : Span
  arg : Option String
  value : Expr

structure Argument where
  span : Span
  name : String
  hint : Option Expr

structure Parameter where
  arg : Argument
  default : Option Expr

structure Parameters where
  positionalOnly : List Parameter
  positional : List Parameter
  variadic : Option Argument
  keywordOnly : List Parameter
  keywords : Option Argument

end

inductive Pattern
  | value (span : Span) (value : Expr)
  | singleton (span : Span) (value : Literal)
  | sequence (span : Span) (patterns : List Pattern)
  | mapping (span : Span) (keys : List Expr) (patterns : List Pattern) (rest : Option String)
  | classOf (span : Span) (cls : Expr) (patterns : List Pattern) (keywordNames : List String)
      (keywordPatterns : List Pattern)
  | star (span : Span) (name : Option String)
  | capture (span : Span) (pattern : Option Pattern) (name : Option String)
  | or (span : Span) (patterns : List Pattern)

inductive TypeParam
  | typeVar (span : Span) (name : String) (bound : Option Expr)
  | paramSpec (span : Span) (name : String)
  | typeVarTuple (span : Span) (name : String)

/-- An imported name and the local name given to it, if any. -/
structure Alias where
  span : Span
  name : String
  asName : Option String

structure WithItem where
  context : Expr
  target : Option Expr

mutual

inductive Stmt
  | functionDef (span : Span) (isAsync : Bool) (name : String) (params : Parameters)
    (body : List Stmt)
      (decorators : List Expr) (returns : Option Expr) (typeParams : List TypeParam)
  | classDef (span : Span) (name : String) (bases : List Expr) (keywords : List Keyword)
      (body : List Stmt) (decorators : List Expr) (typeParams : List TypeParam)
  | returnValue (span : Span) (value : Option Expr)
  | delete (span : Span) (targets : List Expr)
  | assign (span : Span) (targets : List Expr) (value : Expr)
  | typeAlias (span : Span) (name : Expr) (typeParams : List TypeParam) (value : Expr)
  | augAssign (span : Span) (target : Expr) (op : Operator) (value : Expr)
  /-- An annotated assignment; `simple` holds when the target is a bare name. -/
  | annAssign (span : Span) (target hint : Expr) (value : Option Expr) (simple : Bool)
  | forLoop (span : Span) (isAsync : Bool) (target iter : Expr) (body orelse : List Stmt)
  | whileLoop (span : Span) (test : Expr) (body orelse : List Stmt)
  | conditional (span : Span) (test : Expr) (body orelse : List Stmt)
  | withBlock (span : Span) (isAsync : Bool) (items : List WithItem) (body : List Stmt)
  | matchBlock (span : Span) (subject : Expr) (cases : List MatchCase)
  | raise (span : Span) (exc cause : Option Expr)
  | tryBlock (span : Span) (isStar : Bool) (body : List Stmt) (handlers : List ExceptHandler)
      (orelse finalbody : List Stmt)
  | assert (span : Span) (test : Expr) (msg : Option Expr)
  | importModules (span : Span) (names : List Alias)
  | importFrom (span : Span) (origin : Option String) (names : List Alias) (level : Nat)
  | global (span : Span) (names : List String)
  | nonlocal (span : Span) (names : List String)
  | expr (span : Span) (value : Expr)
  | pass (span : Span)
  | breakLoop (span : Span)
  | continueLoop (span : Span)

structure ExceptHandler where
  span : Span
  type : Option Expr
  name : Option String
  body : List Stmt

structure MatchCase where
  pattern : Pattern
  guard : Option Expr
  body : List Stmt

end

/-- The part of the script that an expression takes, without the brackets around it. -/
def Expr.span : Expr → Span
  | .boolOp span .. | .named span .. | .binary span .. | .unary span .. | .lambda span .. => span
  | .ifElse span .. | .dict span .. | .set span .. | .listComp span .. | .setComp span .. => span
  | .dictComp span .. | .generator span .. | .await span .. | .yield span .. => span
  | .yieldFrom span .. | .compare span .. | .call span .. | .formatted span .. => span
  | .joined span .. | .constant span .. | .attribute span .. | .subscript span .. => span
  | .starred span .. | .name span .. | .list span .. | .tuple span .. | .slice span .. => span

end VersionFloor.Script
