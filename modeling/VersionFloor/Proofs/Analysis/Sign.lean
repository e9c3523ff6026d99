import VersionFloor.Analysis.Trigger

set_option autoImplicit false

namespace VersionFloor.Analysis

open Script

/-- A part of a type hint, reached through subscripts, alternatives and tuples only. -/
inductive InHint : Expr → Expr → Prop
  | whole (hint) : InHint hint hint
  | value {span value slice part ctx} (inside : InHint value part) :
      InHint (.subscript span value slice ctx) part
  | slice {span value slice part ctx} (inside : InHint slice part) :
      InHint (.subscript span value slice ctx) part
  | left {span left right part} (inside : InHint left part) :
      InHint (.binary span left .bitOr right) part
  | right {span left right part} (inside : InHint right part) :
      InHint (.binary span left .bitOr right) part
  | element {span elts ctx element part} (listed : element ∈ elts) (inside : InHint element part) :
      InHint (.tuple span elts ctx) part

/-- The type hints of a node: of a result, of a variable or of parameters. -/
inductive Hinted : Node → Expr → Prop
  | result {span isAsync name params body decorators hint typeParams} :
      Hinted (.stmt (.functionDef span isAsync name params body decorators (some hint) typeParams))
        hint
  | assigned {span target hint value simple} :
      Hinted (.stmt (.annAssign span target hint value simple)) hint
  | parameter {p : Parameters} {q : Parameter} {hint}
      (listed : q ∈ p.positionalOnly ++ p.positional ++ p.keywordOnly)
      (given : q.arg.hint = some hint) :
      Hinted (.parameters p) hint
  | remaining {p : Parameters} {a : Argument} {hint}
      (listed : p.variadic = some a ∨ p.keywords = some a) (given : a.hint = some hint) :
      Hinted (.parameters p) hint

/-- The forms by which features of the language are known, generic types in type hints apart. -/
inductive Shows : Node → Feature → Prop
  | asyncFunction {span name params body decorators returns typeParams} :
      Shows (.stmt (.functionDef span true name params body decorators returns typeParams))
        .asyncAndAwait
  | asyncFor {span target iter body orelse} :
      Shows (.stmt (.forLoop span true target iter body orelse)) .asyncAndAwait
  | asyncWith {span items body} : Shows (.stmt (.withBlock span true items body)) .asyncAndAwait
  | await {span value} : Shows (.expr (.await span value)) .asyncAndAwait
  | asyncComprehension {c : Comprehension} (isAsync : c.isAsync = true) :
      Shows (.comprehension c) .asyncComprehensions
  | formatted {span values} : Shows (.expr (.joined span values)) .formattedLiterals
  | named {span target value} : Shows (.expr (.named span target value)) .assignmentExpressions
  | yieldFrom {span value} : Shows (.expr (.yieldFrom span value)) .yieldFrom
  | unicode {span value} : Shows (.expr (.constant span value true)) .unicodeLiterals
  | manyItems {span body} {items : List WithItem} (many : 1 < items.length) :
      Shows (.stmt (.withBlock span false items body)) .multipleContextManagers
  | matchBlock {span subject cases} :
      Shows (.stmt (.matchBlock span subject cases)) .patternMatching
  | positionalOnly {p : Parameters} (given : p.positionalOnly ≠ []) :
      Shows (.parameters p) .positionalOnly
  | hintedVariable {span target hint value simple} :
      Shows (.stmt (.annAssign span target hint value simple)) .variableHints
  | union {node hint span left right} (hinted : Hinted node hint)
      (inside : InHint hint (.binary span left .bitOr right)) : Shows node .unionOperator

/-- Calls of functions by their bare names. -/
inductive Calls : Node → String → Prop
  | bare {span inner name ctx args keywords} :
      Calls (.expr (.call span (.name inner name ctx) args keywords)) name

/-- Exceptions that are raised or caught by name. -/
inductive NamesException : Node → String → Prop
  | raised {span inner name ctx cause} :
      NamesException (.stmt (.raise span (some (.name inner name ctx)) cause)) name
  | raisedCall {span whole inner name ctx args keywords cause} :
      NamesException
        (.stmt (.raise span (some (.call whole (.name inner name ctx) args keywords)) cause)) name
  | caught {h : ExceptHandler} {inner name ctx} (type : h.type = some (.name inner name ctx)) :
      NamesException (.handler h) name
  | caughtAmong {h : ExceptHandler} {whole elts outer inner name ctx}
      (type : h.type = some (.tuple whole elts outer)) (listed : .name inner name ctx ∈ elts) :
      NamesException (.handler h) name

namespace Trigger

theorem mem_listedNames {elts : List Expr} {name : String} :
    name ∈ listedNames elts ↔ ∃ element ∈ elts, name ∈ hintNames element := by
  induction elts with
  | nil => simp [listedNames]
  | cons first rest ih => simp [listedNames, ih]

theorem mem_hintNames_of_inHint {hint part : Expr} {name : String} (inside : InHint hint part)
    (spelled : dotted? part = some name) : name ∈ hintNames hint := by
  induction inside with
  | whole hint =>
    cases hint with
    | name span id ctx =>
      cases spelled
      exact List.mem_singleton_self _
    | «attribute» span value attr ctx => simpa [hintNames] using spelled
    | _ => cases spelled
  | value _ ih => exact List.mem_append_left _ (ih spelled)
  | slice _ ih => exact List.mem_append_right _ (ih spelled)
  | left _ ih => exact List.mem_append_left _ (ih spelled)
  | right _ ih => exact List.mem_append_right _ (ih spelled)
  | element listed _ ih => exact mem_listedNames.2 ⟨_, listed, ih spelled⟩

/-- A hint that is no subscript, no alternative and no tuple has no parts but itself. -/
structure IsAtom (hint : Expr) : Prop where
  notSubscript : ∀ span value slice ctx, hint ≠ .subscript span value slice ctx
  notUnion : ∀ span left right, hint ≠ .binary span left .bitOr right
  notTuple : ∀ span elts ctx, hint ≠ .tuple span elts ctx

/-- Induction over the parts of hints. -/
theorem hint_induction {motive : Expr → Prop}
    (subscript : ∀ span value slice ctx, motive value → motive slice →
      motive (.subscript span value slice ctx))
    (union : ∀ span left right, motive left → motive right →
      motive (.binary span left .bitOr right))
    (tuple : ∀ span elts ctx, (∀ element ∈ elts, motive element) → motive (.tuple span elts ctx))
    (atom : ∀ hint, IsAtom hint → motive hint) (hint : Expr) : motive hint := by
  refine hintUnions.induct motive (fun elts => ∀ element ∈ elts, motive element)
    subscript union tuple
    (fun hint notSubscript notUnion notTuple => atom hint ⟨notSubscript, notUnion, notTuple⟩) ?_ ?_
      hint
  · intro element listed
    cases listed
  · intro first rest here later element listed
    rcases List.mem_cons.1 listed with rfl | listed
    · exact here
    · exact later element listed

theorem hintNames_atom {hint : Expr} (atom : IsAtom hint) :
    hintNames hint = (dotted? hint).toList := by
  obtain ⟨notSubscript, notUnion, notTuple⟩ := atom
  unfold hintNames
  split
  · rfl
  · rfl
  · exact absurd rfl (notSubscript _ _ _ _)
  · exact absurd rfl (notUnion _ _ _)
  · exact absurd rfl (notTuple _ _ _)
  · next notName notAttribute _ _ _ =>
    cases hint with
    | name span id ctx => exact absurd rfl (notName span id ctx)
    | «attribute» span value attr ctx => exact absurd rfl (notAttribute span value attr ctx)
    | _ => rfl

theorem hintUnions_atom {hint : Expr} (atom : IsAtom hint) : hintUnions hint = 0 := by
  obtain ⟨notSubscript, notUnion, notTuple⟩ := atom
  unfold hintUnions
  split
  · exact absurd rfl (notSubscript _ _ _ _)
  · exact absurd rfl (notUnion _ _ _)
  · exact absurd rfl (notTuple _ _ _)
  · rfl

theorem inHint_of_mem_hintNames {hint : Expr} {name : String} (named : name ∈ hintNames hint) :
    ∃ part, InHint hint part ∧ dotted? part = some name := by
  induction hint using hint_induction with
  | subscript span value slice ctx first second =>
    rcases List.mem_append.1 named with named | named
    · obtain ⟨part, inside, spelled⟩ := first named
      exact ⟨part, .value inside, spelled⟩
    · obtain ⟨part, inside, spelled⟩ := second named
      exact ⟨part, .slice inside, spelled⟩
  | union span left right first second =>
    rcases List.mem_append.1 named with named | named
    · obtain ⟨part, inside, spelled⟩ := first named
      exact ⟨part, .left inside, spelled⟩
    · obtain ⟨part, inside, spelled⟩ := second named
      exact ⟨part, .right inside, spelled⟩
  | tuple span elts ctx each =>
    obtain ⟨element, listed, named⟩ := mem_listedNames.1 named
    obtain ⟨part, inside, spelled⟩ := each element listed named
    exact ⟨part, .element listed inside, spelled⟩
  | atom hint atom =>
    rw [hintNames_atom atom, Option.mem_toList] at named
    exact ⟨hint, .whole hint, named⟩

/-- The names of a hint are the dotted texts of its parts. -/
theorem mem_hintNames {hint : Expr} {name : String} :
    name ∈ hintNames hint ↔ ∃ part, InHint hint part ∧ dotted? part = some name :=
  ⟨inHint_of_mem_hintNames, fun ⟨_, inside, spelled⟩ => mem_hintNames_of_inHint inside spelled⟩

theorem listedUnions_pos {elts : List Expr} :
    0 < listedUnions elts ↔ ∃ element ∈ elts, 0 < hintUnions element := by
  induction elts with
  | nil => simp [listedUnions]
  | cons first rest ih =>
    simp only [listedUnions, List.mem_cons, exists_eq_or_imp, ← ih]
    omega

theorem hintUnions_pos_of_inHint {hint left right : Expr} {span : Span}
    (inside : InHint hint (.binary span left .bitOr right)) : 0 < hintUnions hint := by
  generalize whole : Expr.binary span left .bitOr right = part at inside
  induction inside with
  | whole hint =>
    rw [← whole, hintUnions]
    omega
  | value _ ih | slice _ ih | left _ ih | right _ ih =>
    have positive := ih whole
    rw [hintUnions]
    omega
  | element listed _ ih => exact listedUnions_pos.2 ⟨_, listed, ih whole⟩

theorem inHint_of_hintUnions_pos {hint : Expr} (positive : 0 < hintUnions hint) :
    ∃ span left right, InHint hint (.binary span left .bitOr right) := by
  induction hint using hint_induction with
  | subscript span value slice ctx first second =>
    rw [hintUnions] at positive
    rcases Nat.add_pos_iff_pos_or_pos.1 positive with positive | positive
    · obtain ⟨span, left, right, inside⟩ := first positive
      exact ⟨span, left, right, .value inside⟩
    · obtain ⟨span, left, right, inside⟩ := second positive
      exact ⟨span, left, right, .slice inside⟩
  | union span left right => exact ⟨span, left, right, .whole _⟩
  | tuple span elts ctx each =>
    obtain ⟨element, listed, positive⟩ := listedUnions_pos.1 positive
    obtain ⟨span, left, right, inside⟩ := each element listed positive
    exact ⟨span, left, right, .element listed inside⟩
  | atom hint atom =>
    rw [hintUnions_atom atom] at positive
    cases positive

/-- A hint says that there are alternatives in it and which names it has. -/
theorem mem_ofHint {trigger : Trigger} {hint : Expr} :
    trigger ∈ ofHint hint ↔
      (trigger = .feature .unionOperator ∧ 0 < hintUnions hint) ∨
        (trigger = .hint (hintNames hint) ∧ hintNames hint ≠ []) := by
  rw [ofHint, List.mem_append, List.mem_replicate]
  refine or_congr (by rw [and_comm, Nat.pos_iff_ne_zero]) ?_
  cases hintNames hint <;> simp

theorem mem_ofOptionalHint {trigger : Trigger} {hint : Option Expr} :
    trigger ∈ ofOptionalHint hint ↔ ∃ given, hint = some given ∧ trigger ∈ ofHint given := by
  cases hint <;> simp [ofOptionalHint]

theorem mem_ofExceptionName {trigger : Trigger} {e : Expr} :
    trigger ∈ ofExceptionName e ↔
      ∃ span name ctx, e = .name span name ctx ∧ trigger = .exception name := by
  constructor
  · intro held
    cases e with
    | name span id ctx => exact ⟨span, id, ctx, rfl, List.mem_singleton.1 held⟩
    | _ => cases held
  · rintro ⟨span, name, ctx, rfl, rfl⟩
    exact List.mem_singleton_self _

end Trigger

inductive IsImport : Node → Prop
  | modules {span names} : IsImport (.stmt (.importModules span names))
  | names {span origin names level} : IsImport (.stmt (.importFrom span origin names level))

/-- What the triggers of a node stand for. -/
inductive Says (node : Node) : Trigger → Prop
  | feature {feature : Feature} (shown : Shows node feature) : Says node (.feature feature)
  | hint {hint : Expr} (hinted : Hinted node hint) (named : Trigger.hintNames hint ≠ []) :
      Says node (.hint (Trigger.hintNames hint))
  | function {name : String} (called : Calls node name) : Says node (.function name)
  | exception {name : String} (named : NamesException node name) : Says node (.exception name)
  | importName {name : String} (imports : IsImport node) : Says node (.importName name)
  | chain {name attr : String} {span : Span} {value : Expr} {ctx : Context}
      (isAttribute : node = .expr (.attribute span value attr ctx)) : Says node (.chain name)
  | bind {name origin : String} (imports : IsImport node) : Says node (.bind name origin)

namespace Says

theorem of_hint {node : Node} {hint : Expr} {trigger : Trigger} (hinted : Hinted node hint)
    (held : trigger ∈ Trigger.ofHint hint) : Says node trigger := by
  rcases Trigger.mem_ofHint.1 held with ⟨rfl, positive⟩ | ⟨rfl, named⟩
  · obtain ⟨span, left, right, inside⟩ := Trigger.inHint_of_hintUnions_pos positive
    exact .feature (.union hinted inside)
  · exact .hint hinted named

theorem of_import {node : Node} {names : List Alias} {trigger : Trigger} (imports : IsImport node)
    (held : trigger ∈ Trigger.ofImport names) : Says node trigger := by
  obtain ⟨a, -, held⟩ := List.mem_flatMap.1 held
  rcases List.mem_cons.1 held with rfl | held
  · exact .importName imports
  · obtain ⟨name, -, rfl⟩ := List.mem_map.1 held
    exact .bind imports

theorem of_importFrom {node : Node} {origin : String} {names : List Alias} {trigger : Trigger}
    (imports : IsImport node) (held : trigger ∈ Trigger.ofImportFrom origin names) :
    Says node trigger := by
  obtain ⟨a, -, held⟩ := List.mem_flatMap.1 held
  dsimp only at held
  split at held
  · rw [List.mem_singleton.1 held]
    exact .importName imports
  · simp only [List.mem_cons, List.not_mem_nil, or_false] at held
    rcases held with rfl | rfl | rfl
    · exact .bind imports
    · exact .importName imports
    · exact .importName imports

theorem of_raise {span : Span} {exc cause : Option Expr} {trigger : Trigger}
    (held : trigger ∈ Trigger.ofStmt (.raise span exc cause)) :
    Says (.stmt (.raise span exc cause)) trigger := by
  cases exc with
  | none => cases held
  | some exc =>
    cases exc with
    | name inner name ctx =>
      rw [List.mem_singleton.1 held]
      exact .exception .raised
    | call whole func args keywords =>
      obtain ⟨inner, name, ctx, rfl, rfl⟩ := Trigger.mem_ofExceptionName.1 held
      exact .exception .raisedCall
    | _ => cases held

theorem of_stmt {s : Stmt} {trigger : Trigger} (held : trigger ∈ Trigger.ofStmt s) :
    Says (.stmt s) trigger := by
  cases s with
  | functionDef span isAsync name params body decorators returns typeParams =>
    rcases List.mem_append.1 held with async | hinted
    · cases isAsync with
      | false => cases async
      | true =>
        rw [List.mem_singleton.1 async]
        exact .feature .asyncFunction
    · obtain ⟨hint, rfl, said⟩ := Trigger.mem_ofOptionalHint.1 hinted
      exact of_hint .result said
  | annAssign span target hint value simple =>
    rcases List.mem_cons.1 held with rfl | said
    · exact .feature .hintedVariable
    · exact of_hint .assigned said
  | forLoop span isAsync target iter body orelse =>
    cases isAsync with
    | false => cases held
    | true =>
      rw [List.mem_singleton.1 held]
      exact .feature .asyncFor
  | withBlock span isAsync items body =>
    cases isAsync with
    | false =>
      by_cases many : 1 < items.length
      · rw [Trigger.ofStmt, if_neg Bool.false_ne_true, if_pos many] at held
        rw [List.mem_singleton.1 held]
        exact .feature (.manyItems many)
      · rw [Trigger.ofStmt, if_neg Bool.false_ne_true, if_neg many] at held
        cases held
    | true =>
      rw [List.mem_singleton.1 held]
      exact .feature .asyncWith
  | matchBlock span subject clauses =>
    rw [List.mem_singleton.1 held]
    exact .feature .matchBlock
  | importModules span names => exact of_import .modules held
  | importFrom span origin names level =>
    cases origin with
    | none => cases held
    | some origin => exact of_importFrom .names held
  | raise span exc cause => exact of_raise held
  | _ => cases held

theorem of_expr {e : Expr} {trigger : Trigger} (held : trigger ∈ Trigger.ofExpr e) :
    Says (.expr e) trigger := by
  cases e with
  | «attribute» span value attr ctx =>
    rw [Trigger.ofExpr] at held
    split at held
    · split at held
      · cases held
      · rw [List.mem_singleton.1 held]
        exact .chain rfl
    · cases held
  | call span func args keywords =>
    cases func with
    | name inner name ctx =>
      rw [List.mem_singleton.1 held]
      exact .function .bare
    | _ => cases held
  | constant span value unicode =>
    cases unicode with
    | false => cases held
    | true =>
      rw [List.mem_singleton.1 held]
      exact .feature .unicode
  | joined span values =>
    rw [List.mem_singleton.1 held]
    exact .feature .formatted
  | named span target value =>
    rw [List.mem_singleton.1 held]
    exact .feature .named
  | yieldFrom span value =>
    rw [List.mem_singleton.1 held]
    exact .feature .yieldFrom
  | await span value =>
    rw [List.mem_singleton.1 held]
    exact .feature .await
  | _ => cases held

theorem of_parameters {p : Parameters} {trigger : Trigger}
    (held : trigger ∈ Trigger.ofParameters p) :
    Says (.parameters p) trigger := by
  rw [Trigger.ofParameters, List.mem_append, List.mem_append, List.mem_flatMap,
    List.mem_flatMap] at held
  rcases held with (marked | ⟨q, listed, hinted⟩) | ⟨a, listed, hinted⟩
  · split at marked
    · cases marked
    · next given =>
      rw [List.mem_singleton.1 marked]
      exact .feature (.positionalOnly (by simpa using given))
  · obtain ⟨hint, given, said⟩ := Trigger.mem_ofOptionalHint.1 hinted
    exact of_hint (.parameter listed given) said
  · obtain ⟨hint, given, said⟩ := Trigger.mem_ofOptionalHint.1 hinted
    rw [List.mem_append, Option.mem_toList, Option.mem_toList] at listed
    exact of_hint (.remaining listed given) said

theorem of_handler {h : ExceptHandler} {trigger : Trigger} (held : trigger ∈ Trigger.ofHandler h) :
    Says (.handler h) trigger := by
  rw [Trigger.ofHandler] at held
  split at held
  · next whole elts outer type =>
    obtain ⟨element, listed, named⟩ := List.mem_flatMap.1 held
    obtain ⟨inner, name, ctx, rfl, rfl⟩ := Trigger.mem_ofExceptionName.1 named
    exact .exception (.caughtAmong type listed)
  · next e _ type =>
    obtain ⟨inner, name, ctx, rfl, rfl⟩ := Trigger.mem_ofExceptionName.1 held
    exact .exception (.caught type)
  · cases held

/-- Each trigger of a node stands for one of its forms. -/
theorem of_mem {node : Node} {trigger : Trigger} (held : trigger ∈ node.triggers) :
    Says node trigger := by
  cases node with
  | stmt s => exact of_stmt held
  | expr e => exact of_expr held
  | parameters p => exact of_parameters held
  | handler h => exact of_handler held
  | comprehension c =>
    rw [Node.triggers] at held
    split at held
    · next isAsync =>
      rw [List.mem_singleton.1 held]
      exact .feature (.asyncComprehension isAsync)
    · cases held
  | _ => cases held

end Says

/-- The hints of a node are among its triggers. -/
theorem mem_triggers_of_hinted {node : Node} {hint : Expr} (hinted : Hinted node hint)
    {trigger : Trigger} (said : trigger ∈ Trigger.ofHint hint) : trigger ∈ node.triggers := by
  cases hinted with
  | result => exact List.mem_append_right _ (Trigger.mem_ofOptionalHint.2 ⟨hint, rfl, said⟩)
  | assigned => exact List.mem_cons_of_mem _ said
  | parameter listed given =>
    refine List.mem_append_left _ (List.mem_append_right _ (List.mem_flatMap.2 ⟨_, listed, ?_⟩))
    exact Trigger.mem_ofOptionalHint.2 ⟨hint, given, said⟩
  | @remaining p a _ listed given =>
    refine List.mem_append_right _ (List.mem_flatMap.2 ⟨a, ?_, ?_⟩)
    · exact List.mem_append.2 (listed.imp Option.mem_toList.2 Option.mem_toList.2)
    · exact Trigger.mem_ofOptionalHint.2 ⟨hint, given, said⟩

theorem feature_mem_triggers {node : Node} {feature : Feature} :
    .feature feature ∈ node.triggers ↔ Shows node feature := by
  constructor
  · intro held
    cases Says.of_mem held with
    | feature shown => exact shown
  · intro shown
    cases shown with
    | asyncFunction => exact List.mem_append_left _ (List.mem_singleton_self _)
    | manyItems many => simp [Node.triggers, Trigger.ofStmt, many]
    | asyncComprehension isAsync => simp [Node.triggers, isAsync]
    | positionalOnly given => simp [Node.triggers, Trigger.ofParameters, given]
    | hintedVariable => exact List.mem_cons_self
    | union hinted inside =>
      have positive := Trigger.hintUnions_pos_of_inHint inside
      exact mem_triggers_of_hinted hinted (Trigger.mem_ofHint.2 (Or.inl ⟨rfl, positive⟩))
    | _ => exact List.mem_singleton_self _

theorem hint_mem_triggers {node : Node} {names : List String} :
    .hint names ∈ node.triggers ↔
      ∃ hint, Hinted node hint ∧ Trigger.hintNames hint = names ∧ names ≠ [] := by
  constructor
  · intro held
    cases Says.of_mem held with
    | hint hinted named => exact ⟨_, hinted, rfl, named⟩
  · rintro ⟨hint, hinted, rfl, named⟩
    exact mem_triggers_of_hinted hinted (Trigger.mem_ofHint.2 (Or.inr ⟨rfl, named⟩))

theorem function_mem_triggers {node : Node} {name : String} :
    .function name ∈ node.triggers ↔ Calls node name := by
  constructor
  · intro held
    cases Says.of_mem held with
    | function called => exact called
  · rintro ⟨⟩
    exact List.mem_singleton_self _

theorem exception_mem_triggers {node : Node} {name : String} :
    .exception name ∈ node.triggers ↔ NamesException node name := by
  constructor
  · intro held
    cases Says.of_mem held with
    | exception named => exact named
  · intro named
    cases named with
    | raised => exact List.mem_singleton_self _
    | raisedCall => exact List.mem_singleton_self _
    | caught type => simp [Node.triggers, Trigger.ofHandler, type, Trigger.ofExceptionName]
    | caughtAmong type listed =>
      rw [Node.triggers, Trigger.ofHandler, type]
      exact List.mem_flatMap.2 ⟨_, listed, List.mem_singleton_self _⟩

end VersionFloor.Analysis
