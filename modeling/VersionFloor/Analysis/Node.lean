import VersionFloor.Script.Tree

set_option autoImplicit false

namespace VersionFloor.Analysis

open Script

inductive Node
  | stmt (stmt : Stmt)
  | expr (expr : Expr)
  | parameters (parameters : Parameters)
  | comprehension (comprehension : Comprehension)
  | handler (handler : ExceptHandler)
  | withItem (item : WithItem)
  | matchCase (clause : MatchCase)
  | pattern (pattern : Pattern)
  | keyword (keyword : Keyword)
  | typeParam (param : TypeParam)

namespace Node

def optional (e : Option Expr) : List Node :=
  e.toList.map expr

def hints (params : List Parameter) : List Node :=
  params.flatMap fun p => optional p.arg.hint

def defaults (params : List Parameter) : List Node :=
  params.flatMap fun p => optional p.default

def argumentHint (a : Option Argument) : List Node :=
  a.toList.flatMap fun a => optional a.hint

/-- The nodes right below a statement. -/
def ofStmt : Stmt → List Node
  | .functionDef _ _ _ params body decorators returns typeParams =>
    parameters params :: body.map stmt ++ decorators.map expr ++ optional returns
      ++ typeParams.map typeParam
  | .classDef _ _ bases keywords body decorators typeParams =>
    bases.map expr ++ keywords.map keyword ++ body.map stmt ++ decorators.map expr
      ++ typeParams.map typeParam
  | .returnValue _ value => optional value
  | .delete _ targets => targets.map expr
  | .assign _ targets value => targets.map expr ++ [expr value]
  | .typeAlias _ name typeParams value => expr name :: typeParams.map typeParam ++ [expr value]
  | .augAssign _ target _ value => [expr target, expr value]
  | .annAssign _ target hint value _ => expr target :: expr hint :: optional value
  | .forLoop _ _ target iter body orelse =>
    expr target :: expr iter :: body.map stmt ++ orelse.map stmt
  | .whileLoop _ test body orelse => expr test :: body.map stmt ++ orelse.map stmt
  | .conditional _ test body orelse => expr test :: body.map stmt ++ orelse.map stmt
  | .withBlock _ _ items body => items.map withItem ++ body.map stmt
  | .matchBlock _ subject cases => expr subject :: cases.map matchCase
  | .raise _ exc cause => optional exc ++ optional cause
  | .tryBlock _ _ body handlers orelse finalbody =>
    body.map stmt ++ handlers.map handler ++ orelse.map stmt ++ finalbody.map stmt
  | .assert _ test msg => expr test :: optional msg
  | .expr _ value => [expr value]
  | .importModules _ _ => []
  | .importFrom _ _ _ _ => []
  | .global _ _ => []
  | .nonlocal _ _ => []
  | .pass _ => []
  | .breakLoop _ => []
  | .continueLoop _ => []

/-- The nodes right below an expression. -/
def ofExpr : Expr → List Node
  | .boolOp _ _ values => values.map expr
  | .named _ target value => [expr target, expr value]
  | .binary _ left _ right => [expr left, expr right]
  | .unary _ _ operand => [expr operand]
  | .lambda _ params body => [parameters params, expr body]
  | .ifElse _ test body orelse => [expr test, expr body, expr orelse]
  | .dict _ entries =>
    entries.flatMap (fun entry => optional entry.key) ++ entries.map (fun entry => expr entry.value)
  | .set _ elts => elts.map expr
  | .listComp _ elt generators => expr elt :: generators.map comprehension
  | .setComp _ elt generators => expr elt :: generators.map comprehension
  | .dictComp _ key value generators => expr key :: expr value :: generators.map comprehension
  | .generator _ elt generators => expr elt :: generators.map comprehension
  | .await _ value => [expr value]
  | .yield _ value => optional value
  | .yieldFrom _ value => [expr value]
  | .compare _ left _ comparators => expr left :: comparators.map expr
  | .call _ func args keywords => expr func :: args.map expr ++ keywords.map keyword
  | .formatted _ value _ format => expr value :: optional format
  | .joined _ values => values.map expr
  | .constant _ _ _ => []
  | .attribute _ value _ _ => [expr value]
  | .subscript _ value slice _ => [expr value, expr slice]
  | .starred _ value _ => [expr value]
  | .name _ _ _ => []
  | .list _ elts _ => elts.map expr
  | .tuple _ elts _ => elts.map expr
  | .slice _ lower upper step => optional lower ++ optional upper ++ optional step

/-- The nodes right below a pattern. -/
def ofPattern : Pattern → List Node
  | .value _ value => [expr value]
  | .singleton _ _ => []
  | .sequence _ patterns => patterns.map pattern
  | .mapping _ keys patterns _ => keys.map expr ++ patterns.map pattern
  | .classOf _ cls patterns _ keywordPatterns =>
    expr cls :: patterns.map pattern ++ keywordPatterns.map pattern
  | .star _ _ => []
  | .capture _ inner _ => inner.toList.map pattern
  | .or _ patterns => patterns.map pattern

/--
The nodes right below a parameter list: the hints in the order of the parameters, each parameter
that is given by keyword only with its default, and the other defaults last.
-/
def ofParameters (p : Parameters) : List Node :=
  hints p.positionalOnly ++ hints p.positional ++ argumentHint p.variadic
    ++ p.keywordOnly.flatMap (fun q => optional q.arg.hint ++ optional q.default)
    ++ argumentHint p.keywords ++ defaults p.positionalOnly ++ defaults p.positional

/-- The nodes right below a node, in visiting order. -/
def children : Node → List Node
  | stmt s => ofStmt s
  | expr e => ofExpr e
  | parameters p => ofParameters p
  | comprehension c => expr c.target :: expr c.iter :: c.ifs.map expr
  | handler h => optional h.type ++ h.body.map stmt
  | withItem i => expr i.context :: optional i.target
  | matchCase c => pattern c.pattern :: optional c.guard ++ c.body.map stmt
  | pattern p => ofPattern p
  | keyword k => [expr k.value]
  | typeParam (.typeVar _ _ bound) => optional bound
  | typeParam (.paramSpec _ _) => []
  | typeParam (.typeVarTuple _ _) => []

/-- Every node of the list is smaller than `bound`. -/
def AllBelow (bound : Nat) (nodes : List Node) : Prop :=
  ∀ node ∈ nodes, sizeOf node < bound

theorem allBelow_nil (bound : Nat) : AllBelow bound [] := by
  simp [AllBelow]

theorem allBelow_append {bound : Nat} {left right : List Node} :
    AllBelow bound (left ++ right) ↔ AllBelow bound left ∧ AllBelow bound right := by
  simp only [AllBelow, List.mem_append, or_imp, forall_and]

theorem allBelow_cons {bound : Nat} {node : Node} {rest : List Node} :
    AllBelow bound (node :: rest) ↔ sizeOf node < bound ∧ AllBelow bound rest := by
  simp only [AllBelow, List.mem_cons, or_imp, forall_and, forall_eq]

/-- A list of parts gives smaller nodes than anything the list is a part of. -/
theorem allBelow_map {α : Type} [SizeOf α] {bound : Nat} {f : α → Node} {parts : List α}
    (step : ∀ part, sizeOf (f part) = 1 + sizeOf part) (room : sizeOf parts < bound) :
    AllBelow bound (parts.map f) := by
  intro node member
  obtain ⟨part, inside, rfl⟩ := List.mem_map.1 member
  have smaller := List.sizeOf_lt_of_mem inside
  rw [step]
  omega

theorem allBelow_flatMap {α : Type} [SizeOf α] {bound : Nat} {f : α → List Node} {parts : List α}
    (step : ∀ part, AllBelow (sizeOf part + 1) (f part)) (room : sizeOf parts < bound) :
    AllBelow bound (parts.flatMap f) := by
  intro node member
  obtain ⟨part, inside, found⟩ := List.mem_flatMap.1 member
  have smaller := List.sizeOf_lt_of_mem inside
  have below := step part node found
  omega

theorem allBelow_optional {bound : Nat} {e : Option Expr} (room : sizeOf e < bound) :
    AllBelow bound (optional e) := by
  cases e with
  | none => exact allBelow_nil bound
  | some e =>
    simp only [optional, Option.toList_some, List.map_cons, List.map_nil, allBelow_cons,
      allBelow_nil, and_true]
    simp only [Option.some.sizeOf_spec, expr.sizeOf_spec] at room ⊢
    exact room

theorem sizeOf_argument (a : Argument) :
    sizeOf a = 1 + sizeOf a.span + sizeOf a.name + sizeOf a.hint := by
  cases a
  exact Argument.mk.sizeOf_spec _ _ _

theorem sizeOf_parameter (p : Parameter) : sizeOf p = 1 + sizeOf p.arg + sizeOf p.default := by
  cases p
  exact Parameter.mk.sizeOf_spec _ _

theorem sizeOf_dictEntry (d : DictEntry) : sizeOf d = 1 + sizeOf d.key + sizeOf d.value := by
  cases d
  exact DictEntry.mk.sizeOf_spec _ _

theorem allBelow_hint (a : Argument) : AllBelow (sizeOf a) (optional a.hint) :=
  allBelow_optional (by rw [sizeOf_argument]; omega)

theorem allBelow_hints {bound : Nat} {params : List Parameter} (room : sizeOf params < bound) :
    AllBelow bound (hints params) := by
  refine allBelow_flatMap (fun p => allBelow_optional ?_) room
  have outer := sizeOf_parameter p
  have inner := sizeOf_argument p.arg
  omega

theorem allBelow_defaults {bound : Nat} {params : List Parameter} (room : sizeOf params < bound) :
    AllBelow bound (defaults params) :=
  allBelow_flatMap (fun p => allBelow_optional (by rw [sizeOf_parameter]; omega)) room

theorem allBelow_argumentHint {bound : Nat} {a : Option Argument} (room : sizeOf a < bound) :
    AllBelow bound (argumentHint a) := by
  cases a with
  | none => exact allBelow_nil bound
  | some a =>
    intro node member
    simp only [argumentHint, Option.toList_some, List.flatMap_cons, List.flatMap_nil,
      List.append_nil] at member
    have below := allBelow_hint a node member
    simp only [Option.some.sizeOf_spec] at room
    omega

theorem allBelow_ofStmt (s : Stmt) : AllBelow (1 + sizeOf s) (ofStmt s) := by
  cases s <;> simp only [ofStmt, List.cons_append, allBelow_append, allBelow_cons, allBelow_nil,
    and_true]
  all_goals and_intros
  all_goals first
    | exact allBelow_optional (by simp +arith)
    | exact allBelow_map (fun _ => by simp) (by simp +arith)
    | simp +arith

theorem allBelow_ofExpr (e : Expr) : AllBelow (1 + sizeOf e) (ofExpr e) := by
  cases e <;> simp only [ofExpr, List.cons_append, allBelow_append, allBelow_cons, allBelow_nil,
    and_true]
  case dict span entries =>
    constructor
    · refine allBelow_flatMap (fun d => allBelow_optional ?_) (by simp +arith)
      rw [sizeOf_dictEntry]
      omega
    · intro node member
      obtain ⟨d, inside, rfl⟩ := List.mem_map.1 member
      have smaller := List.sizeOf_lt_of_mem inside
      rw [sizeOf_dictEntry] at smaller
      simp only [expr.sizeOf_spec, Expr.dict.sizeOf_spec]
      omega
  all_goals and_intros
  all_goals first
    | exact allBelow_optional (by simp +arith)
    | exact allBelow_map (fun _ => by simp) (by simp +arith)
    | simp +arith

theorem allBelow_ofPattern (p : Pattern) : AllBelow (1 + sizeOf p) (ofPattern p) := by
  cases p with
  | capture span inner name =>
    cases inner with
    | none => exact allBelow_nil _
    | some inner =>
      simp only [ofPattern, Option.toList_some, List.map_cons, List.map_nil, allBelow_cons,
        allBelow_nil, and_true]
      simp +arith
  | _ =>
    simp only [ofPattern, List.cons_append, allBelow_append, allBelow_cons, allBelow_nil, and_true]
    and_intros
    all_goals first
      | exact allBelow_map (fun _ => by simp) (by simp +arith)
      | simp +arith

theorem allBelow_ofParameters (p : Parameters) : AllBelow (1 + sizeOf p) (ofParameters p) := by
  obtain ⟨positionalOnly, positional, variadic, keywordOnly, keywords⟩ := p
  simp only [ofParameters, allBelow_append, Parameters.mk.sizeOf_spec]
  and_intros
  all_goals first
    | exact allBelow_hints (by omega)
    | exact allBelow_defaults (by omega)
    | exact allBelow_argumentHint (by omega)
    | skip
  refine allBelow_flatMap (fun q => ?_) (by omega)
  have outer := sizeOf_parameter q
  have inner := sizeOf_argument q.arg
  exact allBelow_append.2 ⟨allBelow_optional (by omega), allBelow_optional (by omega)⟩

theorem allBelow_children (node : Node) : AllBelow (sizeOf node) node.children := by
  cases node with
  | stmt s => exact allBelow_ofStmt s
  | expr e => exact allBelow_ofExpr e
  | parameters p => exact allBelow_ofParameters p
  | pattern p => exact allBelow_ofPattern p
  | comprehension c =>
    cases c
    simp only [children, allBelow_cons]
    and_intros
    all_goals first
      | exact allBelow_map (fun _ => by simp) (by simp +arith)
      | simp +arith
  | handler h =>
    cases h
    simp only [children, allBelow_append]
    exact ⟨allBelow_optional (by simp +arith), allBelow_map (fun _ => by simp) (by simp +arith)⟩
  | withItem i =>
    cases i
    simp only [children, allBelow_cons]
    exact ⟨by simp +arith, allBelow_optional (by simp +arith)⟩
  | matchCase c =>
    cases c
    simp only [children, List.cons_append, allBelow_cons, allBelow_append]
    exact ⟨by simp +arith, allBelow_optional (by simp +arith),
      allBelow_map (fun _ => by simp) (by simp +arith)⟩
  | keyword k =>
    cases k
    simp only [children, allBelow_cons, allBelow_nil, and_true]
    simp +arith
  | typeParam t =>
    cases t
    · exact allBelow_optional (by simp +arith)
    · exact allBelow_nil _
    · exact allBelow_nil _

end Node

end VersionFloor.Analysis
