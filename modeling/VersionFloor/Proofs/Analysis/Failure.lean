import VersionFloor.Proofs.Analysis.Report
import VersionFloor.Report

set_option autoImplicit false

namespace VersionFloor.Analysis

open Script

/--
The features that a node asks for: those it shows, and generic types if one of its type hints names
anything.
-/
inductive Asks (node : Node) : Feature → Prop
  | shown {feature : Feature} (shown : Shows node feature) : Asks node feature
  | named {hint part : Expr} {chain : Chain} (hinted : Hinted node hint) (inside : InHint hint part)
      (spelled : Chain.ofExpr? part = some chain) : Asks node .genericHints

/-- What a type hint asks for: alternatives, one by one, before the generic types. -/
def askedByHint (hint : Expr) : List Feature :=
  List.replicate (Trigger.hintUnions hint) .unionOperator
    ++ if (Trigger.hintNames hint).isEmpty then [] else [.genericHints]

namespace Node

/-- The feature that a node shows by its form, its type hints apart. -/
def mark? : Node → Option Feature
  | stmt (.functionDef _ true _ _ _ _ _ _) => some .asyncAndAwait
  | stmt (.forLoop _ true _ _ _ _) => some .asyncAndAwait
  | stmt (.withBlock _ true _ _) => some .asyncAndAwait
  | stmt (.withBlock _ false items _) =>
    if 1 < items.length then some .multipleContextManagers else none
  | stmt (.annAssign _ _ _ _ _) => some .variableHints
  | stmt (.matchBlock _ _ _) => some .patternMatching
  | expr (.constant _ _ true) => some .unicodeLiterals
  | expr (.joined _ _) => some .formattedLiterals
  | expr (.named _ _ _) => some .assignmentExpressions
  | expr (.yieldFrom _ _) => some .yieldFrom
  | expr (.await _ _) => some .asyncAndAwait
  | parameters p => if p.positionalOnly.isEmpty then none else some .positionalOnly
  | comprehension c => if c.isAsync then some .asyncComprehensions else none
  | _ => none

/-- The type hints of a node in the order in which they are looked at. -/
def hintsInOrder : Node → List Expr
  | stmt (.functionDef _ _ _ _ _ _ returns _) => returns.toList
  | stmt (.annAssign _ _ hint _ _) => [hint]
  | parameters p =>
    (p.positionalOnly ++ p.positional ++ p.keywordOnly).filterMap (·.arg.hint)
      ++ (p.variadic.toList ++ p.keywords.toList).filterMap (·.hint)
  | _ => []

/-- What a node asks for, in order. -/
def asked (node : Node) : List Feature :=
  node.mark?.toList ++ node.hintsInOrder.flatMap askedByHint

end Node

def asked (body : List Stmt) : List Feature :=
  (inPreorder body).flatMap Node.asked

def firstMissing? (language : Changelog) (body : List Stmt) : Option Feature :=
  (asked body).find? (·.key ∉ language.names)

namespace Trigger

theorem needs_ofHint (hint : Expr) : (ofHint hint).filterMap needs = askedByHint hint := by
  have union : needs (.feature .unionOperator) = some .unionOperator := rfl
  rw [ofHint, askedByHint, List.filterMap_append, List.filterMap_replicate_of_some union]
  congr 1
  split <;> rfl

theorem needs_ofOptionalHint (hint : Option Expr) :
    (ofOptionalHint hint).filterMap needs = hint.toList.flatMap askedByHint := by
  cases hint with
  | none => rfl
  | some hint => simp only [ofOptionalHint, Option.toList_some, List.flatMap_cons, List.flatMap_nil,
      List.append_nil, needs_ofHint]

theorem needs_ofHints {α : Type} (hint? : α → Option Expr) (parts : List α) :
    (parts.flatMap fun part => ofOptionalHint (hint? part)).filterMap needs =
      (parts.filterMap hint?).flatMap askedByHint := by
  induction parts with
  | nil => rfl
  | cons part rest ih =>
    rw [List.flatMap_cons, List.filterMap_append, ih, needs_ofOptionalHint, List.filterMap_cons]
    cases hint? part <;> simp

theorem needs_ofExceptionName (e : Expr) : (ofExceptionName e).filterMap needs = [] := by
  cases e <;> rfl

theorem needs_ofImport (names : List Alias) : (ofImport names).filterMap needs = [] := by
  rw [ofImport, List.filterMap_flatMap, List.flatMap_eq_nil_iff]
  intro a _
  cases a.asName <;> rfl

theorem needs_ofImportFrom (origin : String) (names : List Alias) :
    (ofImportFrom origin names).filterMap needs = [] := by
  rw [ofImportFrom, List.filterMap_flatMap, List.flatMap_eq_nil_iff]
  intro a _
  split <;> rfl

theorem needs_ofStmt (s : Stmt) : (ofStmt s).filterMap needs = (Node.stmt s).asked := by
  cases s with
  | functionDef span isAsync name params body decorators returns typeParams =>
    rw [ofStmt, List.filterMap_append, needs_ofOptionalHint]
    cases isAsync <;> rfl
  | annAssign span target hint value simple =>
    have marked : needs (.feature .variableHints) = some .variableHints := rfl
    rw [ofStmt, List.filterMap_cons_some marked, needs_ofHint]
    simp [Node.asked, Node.mark?, Node.hintsInOrder]
  | forLoop span isAsync target iter body orelse => cases isAsync <;> rfl
  | withBlock span isAsync items body =>
    cases isAsync with
    | true => rfl
    | false =>
      by_cases many : 1 < items.length <;>
        simp [ofStmt, Node.asked, Node.mark?, Node.hintsInOrder, needs, many]
  | importModules span names => exact needs_ofImport names
  | importFrom span origin names level =>
    cases origin with
    | none => rfl
    | some origin => exact needs_ofImportFrom origin names
  | raise span exc cause =>
    cases exc with
    | none => rfl
    | some exc =>
      cases exc with
      | call whole func args keywords => exact needs_ofExceptionName func
      | _ => rfl
  | _ => rfl

theorem needs_ofExpr (e : Expr) : (ofExpr e).filterMap needs = (Node.expr e).asked := by
  cases e with
  | «attribute» span value attr ctx =>
    rw [ofExpr]
    split
    · split <;> rfl
    · rfl
  | call span func args keywords => cases func <;> rfl
  | constant span value unicode => cases unicode <;> rfl
  | _ => rfl

theorem needs_ofParameters (p : Parameters) :
    (ofParameters p).filterMap needs = (Node.parameters p).asked := by
  rw [ofParameters, List.filterMap_append, List.filterMap_append,
    needs_ofHints fun q : Parameter => q.arg.hint, needs_ofHints Argument.hint, Node.asked,
    Node.hintsInOrder, List.flatMap_append, List.append_assoc]
  congr 1
  rw [Node.mark?]
  split <;> rfl

theorem needs_ofHandler (h : ExceptHandler) : (ofHandler h).filterMap needs = [] := by
  rw [ofHandler]
  split
  · rw [List.filterMap_flatMap, List.flatMap_eq_nil_iff]
    intro element _
    exact needs_ofExceptionName element
  · exact needs_ofExceptionName _
  · rfl

/-- The triggers of a node need the entries that it asks for, in the same order. -/
theorem needs_triggers (node : Node) : node.triggers.filterMap needs = node.asked := by
  cases node with
  | stmt s => exact needs_ofStmt s
  | expr e => exact needs_ofExpr e
  | parameters p => exact needs_ofParameters p
  | handler h => exact needs_ofHandler h
  | comprehension c =>
    rw [Node.triggers, Node.asked, Node.mark?]
    split <;> rfl
  | _ => rfl

/-- The first entry that is missing is the first that is needed and not there. -/
theorem findSome?_missing? (language : Changelog) (triggers : List Trigger) :
    triggers.findSome? (missing? language) =
      (triggers.filterMap needs).find? (·.key ∉ language.names) := by
  induction triggers with
  | nil => rfl
  | cons trigger rest ih =>
    rw [List.findSome?_cons, List.filterMap_cons, ih, missing?]
    cases trigger.needs with
    | none => rfl
    | some feature =>
      rw [Option.filter_some, List.find?_cons]
      by_cases known : feature.key ∈ language.names
      · have present : language.contains feature.key = true := (Table.contains_iff _ _).2 known
        simp [present, known]
      · have absent : ¬ language.contains feature.key = true := fun present =>
          known ((Table.contains_iff _ _).1 present)
        simp [absent, known]

end Trigger

theorem mem_asked {node : Node} {feature : Feature} : feature ∈ node.asked ↔ Asks node feature := by
  rw [← Trigger.needs_triggers, List.mem_filterMap]
  constructor
  · rintro ⟨trigger, held, needed⟩
    cases trigger with
    | feature shown =>
      cases needed
      exact .shown (feature_mem_triggers.1 held)
    | hint names =>
      cases needed
      obtain ⟨hint, hinted, rfl, named⟩ := hint_mem_triggers.1 held
      obtain ⟨name, listed⟩ := List.exists_mem_of_ne_nil _ named
      obtain ⟨part, chain, inside, spelled, -⟩ := Chain.mem_hintNames_iff.1 listed
      exact .named hinted inside spelled
    | _ => cases needed
  · intro asks
    cases asks with
    | shown shown => exact ⟨.feature feature, feature_mem_triggers.2 shown, rfl⟩
    | @named hint part chain hinted inside spelled =>
      have listed : chain.text ∈ Trigger.hintNames hint :=
        Chain.mem_hintNames_iff.2 ⟨part, chain, inside, spelled, rfl⟩
      exact ⟨.hint (Trigger.hintNames hint),
        hint_mem_triggers.2 ⟨hint, hinted, rfl, List.ne_nil_of_mem listed⟩, rfl⟩

theorem mem_asked_body {body : List Stmt} {feature : Feature} :
    feature ∈ asked body ↔ ∃ node, Occurs body node ∧ Asks node feature := by
  simp only [asked, inPreorder, map_snd_visits, List.mem_flatMap, mem_asked, mem_nodes_iff, Occurs]

variable {changelogs : Changelogs}

/--
An analysis applies the triggers before the first missing entry and names the feature of that entry.
-/
theorem analyze_eq (s : State) (body : List Stmt) :
    analyze changelogs s body =
      (after changelogs s
        (beforeMissing changelogs.language ((inPreorder body).flatMap Node.triggers)),
        firstMissing? changelogs.language body) := by
  have needed : (triggers body).filterMap Trigger.needs = asked body := by
    simp only [triggers, asked, inPreorder, map_snd_visits, List.filterMap_flatMap,
      Trigger.needs_triggers]
  rw [analyze_eq_run, run_eq, Trigger.findSome?_missing?, needed, firstMissing?, triggers,
    inPreorder, map_snd_visits]

/-- A script whose analysis fails has no report, but the error that names the missing entry. -/
theorem ofScript_eq_error (baseline : Version) {path text : String} {body : List Stmt}
    {feature : Feature} (read : Script.read path text = .ok body)
    (first : firstMissing? changelogs.language body = some feature) :
    Report.ofScript changelogs baseline path text = .error (.missingFeature feature.key) := by
  simp only [Report.ofScript, read, bind, Except.bind, analyze_eq, first]
  rfl

theorem exists_firstMissing?_iff {language : Changelog} {body : List Stmt} :
    (∃ feature, firstMissing? language body = some feature) ↔
      ∃ node feature, Occurs body node ∧ Asks node feature ∧ feature.key ∉ language.names := by
  rw [← Option.isSome_iff_exists, firstMissing?, List.find?_isSome]
  simp only [decide_eq_true_eq]
  constructor
  · rintro ⟨feature, listed, absent⟩
    obtain ⟨node, occurs, asks⟩ := mem_asked_body.1 listed
    exact ⟨node, feature, occurs, asks, absent⟩
  · rintro ⟨node, feature, occurs, asks, absent⟩
    exact ⟨feature, mem_asked_body.2 ⟨node, occurs, asks⟩, absent⟩

/--
An analysis fails just when a node of the script asks for a feature whose key the language changelog
lacks. It then names the first such feature in visiting order, as the error of a report does, and
has come to the state that the triggers before it lead to. The start, the tables collected, the
bindings and the other changelogs have no part in this, and with all keys there, as in the
changelogs that come with the program, no script fails.
-/
theorem analyze_fails_at_first_missing_entry (changelogs : Changelogs) (s : State)
    (body : List Stmt) :
    ((∃ t feature, analyze changelogs s body = (t, some feature)) ↔
      ∃ node feature, Occurs body node ∧ Asks node feature ∧
        feature.key ∉ changelogs.language.names) ∧
    (∀ t feature, analyze changelogs s body = (t, some feature) ↔
      firstMissing? changelogs.language body = some feature ∧
        t = after changelogs s
          (beforeMissing changelogs.language ((inPreorder body).flatMap Node.triggers))) ∧
    (∀ baseline path text feature, Script.read path text = .ok body →
      firstMissing? changelogs.language body = some feature →
      Report.ofScript changelogs baseline path text = .error (.missingFeature feature.key)) ∧
    (∀ (others : Changelogs) (t : State),
      (∀ feature : Feature, feature.key ∈ others.language.names ↔
        feature.key ∈ changelogs.language.names) →
      (analyze others t body).2 = (analyze changelogs s body).2) ∧
    ((∀ feature : Feature, feature.key ∈ changelogs.language.names) →
      (analyze changelogs s body).2 = none) ∧
    ∀ feature : Feature, feature.key ∈ Changelogs.builtin.language.names := by
  refine ⟨?_, ?_, ?_, ?_, ?_, ?_⟩
  · rw [← exists_firstMissing?_iff]
    constructor
    · rintro ⟨t, feature, failed⟩
      rw [analyze_eq] at failed
      exact ⟨feature, (Prod.mk.inj failed).2⟩
    · rintro ⟨feature, first⟩
      exact ⟨_, feature, by rw [analyze_eq, first]⟩
  · intro t feature
    rw [analyze_eq, Prod.mk.injEq, and_comm, eq_comm (a := t)]
  · intro baseline path text feature read first
    exact ofScript_eq_error baseline read first
  · intro others t same
    simp only [analyze_eq, firstMissing?, same]
  · intro complete
    rw [analyze_eq, firstMissing?, List.find?_eq_none]
    intro feature _
    simp only [complete, not_true_eq_false, decide_false, Bool.false_eq_true, not_false_eq_true]
  · intro feature
    exact (Table.contains_iff _ _).1 (builtin_contains_key feature)

def withoutGenerics : Changelogs :=
  { Changelogs.builtin with
    language := Changelogs.builtin.language.filter fun name _ => name ≠ Feature.genericHints.key }

/-- `x: int | str` and, on a line of its own, `f''`. -/
def unionHint : List Stmt :=
  [.annAssign ⟨0, 12⟩ (.name ⟨0, 1⟩ "x" .store)
     (.binary ⟨3, 12⟩ (.name ⟨3, 6⟩ "int" .load) .bitOr (.name ⟨9, 12⟩ "str" .load)) none true,
   .expr ⟨13, 16⟩ (.joined ⟨13, 16⟩ [])]

theorem inPreorder_unionHint : inPreorder unionHint =
    [.stmt (.annAssign ⟨0, 12⟩ (.name ⟨0, 1⟩ "x" .store)
       (.binary ⟨3, 12⟩ (.name ⟨3, 6⟩ "int" .load) .bitOr (.name ⟨9, 12⟩ "str" .load)) none true),
     .expr (.name ⟨0, 1⟩ "x" .store),
     .expr (.binary ⟨3, 12⟩ (.name ⟨3, 6⟩ "int" .load) .bitOr (.name ⟨9, 12⟩ "str" .load)),
     .expr (.name ⟨3, 6⟩ "int" .load),
     .expr (.name ⟨9, 12⟩ "str" .load),
     .stmt (.expr ⟨13, 16⟩ (.joined ⟨13, 16⟩ [])),
     .expr (.joined ⟨13, 16⟩ [])] := by
  rw [inPreorder, map_snd_visits]
  simp [nodes, unionHint, Node.preorder_eq, Node.children, Node.ofStmt, Node.ofExpr, Node.optional]

/--
The variable and the alternative of the hint are recorded before its names ask for the missing
entry.
-/
theorem generics_missing_of_unionHint :
    ∃ s, analyze withoutGenerics (.fresh .baseline) unionHint = (s, some .genericHints) ∧
      s.language.names = [Feature.variableHints.key, Feature.unionOperator.key] ∧
      (analyze Changelogs.builtin (.fresh .baseline) unionHint).2 = none := by
  obtain ⟨-, named, -⟩ :=
    analyze_fails_at_first_missing_entry withoutGenerics (.fresh .baseline) unionHint
  obtain ⟨-, -, -, -, complete, known⟩ :=
    analyze_fails_at_first_missing_entry Changelogs.builtin (.fresh .baseline) unionHint
  refine ⟨_, (named _ _).2 ⟨?_, rfl⟩, ?_, complete known⟩
  · rw [firstMissing?, asked, inPreorder_unionHint]
    decide +kernel
  · rw [inPreorder_unionHint]
    decide +kernel

end VersionFloor.Analysis
