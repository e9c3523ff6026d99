import Mathlib.Data.List.TakeWhile
import VersionFloor.Proofs.Analysis.Finding
import VersionFloor.Proofs.Analysis.Sign
import VersionFloor.Proofs.Analysis.Visits

set_option autoImplicit false

namespace VersionFloor.Analysis

open Script

/-- Nothing, or a dot and what follows it. -/
def DotLed (rest : String) : Prop :=
  rest = "" ∨ ∃ more, rest = "." ++ more

/-- A name, the attribute of it, the attribute of that, and so on. -/
structure Chain where
  root : String
  attrs : List String

namespace Chain

def ofExpr? : Expr → Option Chain
  | .name _ id _ => some ⟨id, []⟩
  | .attribute _ value attr _ =>
    (ofExpr? value).map fun chain => ⟨chain.root, chain.attrs ++ [attr]⟩
  | _ => none

def tail (chain : Chain) : String :=
  String.join (chain.attrs.map ("." ++ ·))

def text (chain : Chain) : String :=
  chain.root ++ chain.tail

/-- The text with the root replaced by what it is bound to. -/
def resolved (bindings : String → Option String) (chain : Chain) : String :=
  (bindings chain.root).getD chain.root ++ chain.tail

theorem dotted?_eq (e : Expr) : dotted? e = (ofExpr? e).map text := by
  induction e using ofExpr?.induct with
  | case1 span id ctx => simp [dotted?, ofExpr?, text, tail]
  | case2 span value attr ctx ih =>
    rw [dotted?, ofExpr?, ih, Option.map_map, Option.map_map]
    congr 1
    funext chain
    simp [text, tail, String.append_assoc]
  | case3 e notName notAttribute =>
    cases e with
    | name span id ctx => exact absurd rfl (notName span id ctx)
    | «attribute» span value attr ctx => exact absurd rfl (notAttribute span value attr ctx)
    | _ => rfl

/-- The names of a hint are the texts of the chains in it. -/
theorem mem_hintNames_iff {hint : Expr} {name : String} :
    name ∈ Trigger.hintNames hint ↔
      ∃ part chain, InHint hint part ∧ ofExpr? part = some chain ∧ chain.text = name := by
  simp only [Trigger.mem_hintNames, dotted?_eq, Option.map_eq_some_iff, exists_and_left]

theorem dotLed_tail (chain : Chain) : DotLed chain.tail := by
  obtain ⟨root, attrs⟩ := chain
  cases attrs with
  | nil => exact Or.inl rfl
  | cons attr attrs =>
    exact Or.inr ⟨attr ++ String.join (attrs.map ("." ++ ·)), by simp [tail, String.append_assoc]⟩

end Chain

/--
A full name behind a dotted text: what stands before the first dot is replaced by what it is bound
to.
-/
def Resolves (bindings : String → Option String) (name full : String) : Prop :=
  ∃ root rest, name = root ++ rest ∧ '.' ∉ root.toList ∧ DotLed rest ∧
    full = (bindings root).getD root ++ rest

theorem decide_ne_dot {root : String} (dotless : '.' ∉ root.toList) :
    ∀ c ∈ root.toList, decide (c ≠ '.') = true := by
  intro c held
  exact decide_eq_true fun same => dotless (same ▸ held)

theorem rootOf_append {root rest : String} (dotless : '.' ∉ root.toList)
    (dotted : DotLed rest) : rootOf (root ++ rest) = root := by
  rw [rootOf, String.toList_append, List.takeWhile_append_of_pos (decide_ne_dot dotless)]
  rcases dotted with rfl | ⟨more, rfl⟩
  · simp
  · simp

theorem afterRoot_append {root rest : String} (dotless : '.' ∉ root.toList)
    (dotted : DotLed rest) : afterRoot (root ++ rest) = rest := by
  rw [afterRoot, String.toList_append, List.dropWhile_append_of_pos (decide_ne_dot dotless)]
  rcases dotted with rfl | ⟨more, rfl⟩
  · simp
  · simp

theorem resolve_append (s : State) {root rest : String} (dotless : '.' ∉ root.toList)
    (dotted : DotLed rest) :
    s.resolve (root ++ rest) = (s.bindings.get? root).getD root ++ rest := by
  rw [State.resolve, rootOf_append dotless dotted, afterRoot_append dotless dotted]
  cases s.bindings.get? root <;> rfl

theorem rootOf_append_afterRoot (name : String) : rootOf name ++ afterRoot name = name := by
  rw [rootOf, afterRoot, ← String.ofList_append, List.takeWhile_append_dropWhile,
    String.ofList_toList]

theorem dotless_rootOf (name : String) : '.' ∉ (rootOf name).toList := by
  intro held
  rw [rootOf, String.toList_ofList] at held
  simpa using List.mem_takeWhile_imp held

theorem dotLed_afterRoot (name : String) : DotLed (afterRoot name) := by
  rw [afterRoot]
  cases rest : name.toList.dropWhile (· ≠ '.') with
  | nil => exact Or.inl rfl
  | cons c more =>
    have dot : c = '.' := by
      have stopped := List.head?_dropWhile_not (fun c => decide (c ≠ '.')) name.toList
      rw [rest] at stopped
      simpa using stopped
    exact Or.inr ⟨String.ofList more, by rw [dot, String.ofList_cons]; rfl⟩

/-- The full name found in a state is the one behind the dotted text under its bindings. -/
theorem resolves_iff {s : State} {name full : String} :
    Resolves s.bindings.get? name full ↔ s.resolve name = full := by
  constructor
  · rintro ⟨root, rest, rfl, dotless, dotted, rfl⟩
    exact resolve_append s dotless dotted
  · rintro rfl
    refine ⟨rootOf name, afterRoot name, (rootOf_append_afterRoot name).symm, dotless_rootOf name,
      dotLed_afterRoot name, ?_⟩
    have whole := resolve_append s (dotless_rootOf name) (dotLed_afterRoot name)
    rwa [rootOf_append_afterRoot] at whole

theorem resolve_text (s : State) {chain : Chain} (dotless : '.' ∉ chain.root.toList) :
    s.resolve chain.text = chain.resolved s.bindings.get? :=
  resolve_append s dotless chain.dotLed_tail

theorem rootOf_text {chain : Chain} (dotless : '.' ∉ chain.root.toList) :
    rootOf chain.text = chain.root :=
  rootOf_append dotless chain.dotLed_tail

namespace Node

/-- The local names that a node binds, each with its origin, in order. -/
def bound : Node → List (String × String)
  | stmt (.importModules _ names) =>
    names.filterMap fun a => a.asName.map fun name => (name, a.name)
  | stmt (.importFrom _ (some origin) names _) =>
    (names.filter (·.name ≠ "*")).map fun a => (a.asName.getD a.name, origin ++ "." ++ a.name)
  | _ => []

/-- The names that a node looks up among the modules, in order. -/
def lookups (bindings : String → Option String) : Node → List String
  | stmt (.importModules _ names) => names.map (·.name)
  | stmt (.importFrom _ (some origin) names _) =>
    names.flatMap fun a => if a.name = "*" then [origin] else [origin, origin ++ "." ++ a.name]
  | expr (.attribute span value attr ctx) =>
    match Chain.ofExpr? (.attribute span value attr ctx) with
    | some chain => if chain.root = "self" then [] else [chain.resolved bindings]
    | none => []
  | _ => []

end Node

/-- The bindings that the imports among the nodes visited so far have made. -/
def boundBy (before : List Node) : String → Option String :=
  latest (before.flatMap Node.bound)

/-- The names that nodes look up among the modules, each under the bindings made before it. -/
def lookups (before : List Node) : List Node → List String
  | [] => []
  | node :: rest => node.lookups (boundBy before) ++ lookups (before ++ [node]) rest

variable {changelogs : Changelogs}

theorem Says.binding?_eq_none {node : Node} {trigger : Trigger} (said : Says node trigger)
    (foreign : ¬ IsImport node) : trigger.binding? = none := by
  cases said with
  | bind imports => exact absurd imports foreign
  | _ => rfl

theorem Node.bound_eq_nil {node : Node} (foreign : ¬ IsImport node) : node.bound = [] := by
  unfold bound
  split
  · exact absurd .modules foreign
  · exact absurd .names foreign
  · rfl

theorem binding?_ofImport (names : List Alias) :
    (Trigger.ofImport names).filterMap Trigger.binding? =
      names.filterMap fun a => a.asName.map fun name => (name, a.name) := by
  induction names with
  | nil => rfl
  | cons a rest ih =>
    rw [Trigger.ofImport] at ih ⊢
    rw [List.flatMap_cons, List.filterMap_append, ih]
    cases named : a.asName <;> simp [List.filterMap_cons, Trigger.binding?, named]

theorem binding?_ofImportFrom (origin : String) (names : List Alias) :
    (Trigger.ofImportFrom origin names).filterMap Trigger.binding? =
      (names.filter (·.name ≠ "*")).map fun a =>
        (a.asName.getD a.name, origin ++ "." ++ a.name) := by
  induction names with
  | nil => rfl
  | cons a rest ih =>
    rw [Trigger.ofImportFrom] at ih ⊢
    rw [List.flatMap_cons, List.filterMap_append, ih, List.filter_cons]
    by_cases star : a.name = "*"
    · simp [star, Trigger.binding?]
    · simp [star, Trigger.binding?]

/-- The triggers of a node bind what its imports bind. -/
theorem binding?_triggers (node : Node) :
    node.triggers.filterMap Trigger.binding? = node.bound := by
  by_cases imports : IsImport node
  · cases imports with
    | @modules span names => exact binding?_ofImport names
    | @names span origin names level =>
      cases origin with
      | none => rfl
      | some origin => exact binding?_ofImportFrom origin names
  · rw [Node.bound_eq_nil imports, List.filterMap_eq_nil_iff]
    intro trigger held
    exact (Says.of_mem held).binding?_eq_none imports

/-- After nodes the bindings are those that these nodes make. -/
theorem bindings_after (baseline : Version) (before : List Node) :
    (after changelogs (.fresh baseline) (before.flatMap Node.triggers)).bindings.get? =
      boundBy before := by
  funext name
  have joined : (before.flatMap Node.triggers).filterMap Trigger.binding? =
      before.flatMap Node.bound := by
    rw [List.filterMap_flatMap]
    simp only [binding?_triggers]
  rw [after_bindings, joined, boundBy, Table.get?_insertAll]
  exact Option.or_none

theorem finding?_congr {s t : State} (same : s.bindings.get? = t.bindings.get?)
    (trigger : Trigger) :
    s.finding? changelogs trigger = t.finding? changelogs trigger := by
  have resolved : s.resolve = t.resolve := by
    funext name
    rw [State.resolve, State.resolve, same]
  cases trigger with
  | hint names =>
    have uses : s.usesGenerics changelogs.language names =
        t.usesGenerics changelogs.language names := by
      rw [State.usesGenerics, State.usesGenerics, resolved]
    rw [State.finding?, State.finding?, uses]
  | chain name => simp only [State.finding?, resolved]
  | _ => rfl

/-- No trigger of a node changes what another one of it finds. -/
theorem finding?_apply {node : Node} {first second : Trigger} (one : Says node first)
    (other : Says node second) (s : State) :
    (s.apply changelogs first).finding? changelogs second = s.finding? changelogs second := by
  by_cases imports : IsImport node
  · -- The triggers of an import look up names as they stand.
    cases other with
    | hint hinted => cases imports <;> cases hinted
    | chain isAttribute => cases imports <;> cases isAttribute
    | _ => rfl
  · apply finding?_congr
    rw [apply_bindings, one.binding?_eq_none imports]
    rfl

theorem findings_of_says {node : Node} {triggers : List Trigger}
    (said : ∀ trigger ∈ triggers, Says node trigger) (s : State) :
    findings changelogs s triggers = triggers.filterMap (s.finding? changelogs) := by
  induction triggers generalizing s with
  | nil => rfl
  | cons trigger rest ih =>
    obtain ⟨here, later⟩ := List.forall_mem_cons.1 said
    have unchanged : rest.filterMap ((s.apply changelogs trigger).finding? changelogs) =
        rest.filterMap (s.finding? changelogs) := by
      apply List.filterMap_congr
      intro other held
      exact finding?_apply here (later other held) s
    rw [findings, ih later, unchanged, List.filterMap_cons]
    cases s.finding? changelogs trigger <;> rfl

/-- What nodes find, each in the state that those before it lead to. -/
theorem findings_nodes_cons (s : State) (node : Node) (rest : List Node) :
    findings changelogs s ((node :: rest).flatMap Node.triggers) =
      node.triggers.filterMap (s.finding? changelogs) ++
        findings changelogs (after changelogs s node.triggers) (rest.flatMap Node.triggers) := by
  rw [List.flatMap_cons, findings_append, findings_of_says fun _ held => Says.of_mem held]

/--
The entries found are those that some node finds in the state that the nodes before it lead to.
-/
theorem mem_findings_nodes {s : State} {nodes : List Node} {finding : Finding} :
    finding ∈ findings changelogs s (nodes.flatMap Node.triggers) ↔
      ∃ before node later, nodes = before ++ node :: later ∧ ∃ trigger ∈ node.triggers,
        (after changelogs s (before.flatMap Node.triggers)).finding? changelogs trigger =
          some finding := by
  induction nodes generalizing s with
  | nil => simp [findings]
  | cons node rest ih =>
    rw [findings_nodes_cons, List.mem_append, List.mem_filterMap, ih]
    constructor
    · rintro (here | ⟨before, other, later, rfl, found⟩)
      · exact ⟨[], node, rest, rfl, here⟩
      · refine ⟨node :: before, other, later, rfl, ?_⟩
        rwa [List.flatMap_cons, after_append]
    · rintro ⟨before, other, later, split, found⟩
      cases before with
      | nil =>
        obtain ⟨rfl, rfl⟩ := List.cons.inj split
        exact Or.inl found
      | cons first before =>
        obtain ⟨rfl, rfl⟩ := List.cons.inj split
        rw [List.flatMap_cons, after_append] at found
        exact Or.inr ⟨before, other, later, rfl, found⟩

def Trigger.lookup? (s : State) : Trigger → Option String
  | .importName name => some name
  | .chain name => some (s.resolve name)
  | _ => none

theorem modules_finding? (s : State) (trigger : Trigger) :
    (s.finding? changelogs trigger).bind (Finding.inTable? .modules) =
      (trigger.lookup? s).bind fun name => (changelogs.modules.get? name).map fun r =>
        (name, r) := by
  cases trigger with
  | feature feature =>
    rw [State.finding?]
    cases changelogs.language.get? feature.key <;> rfl
  | hint names =>
    rw [State.finding?]
    split
    · cases changelogs.language.get? Feature.genericHints.key <;> rfl
    · rfl
  | function name =>
    rw [State.finding?]
    cases changelogs.functions.get? name <;> rfl
  | exception name =>
    rw [State.finding?]
    cases changelogs.exceptions.get? name <;> rfl
  | importName name =>
    simp only [State.finding?, Trigger.lookup?, Option.bind_some]
    cases changelogs.modules.get? name <;> rfl
  | chain name =>
    simp only [State.finding?, Trigger.lookup?, Option.bind_some]
    cases changelogs.modules.get? (s.resolve name) <;> rfl
  | bind name origin => rfl

/-- The name at the root of a chain has no dot in it. -/
def Node.DotlessRoot (node : Node) : Prop :=
  ∀ e chain, node = .expr e → Chain.ofExpr? e = some chain → '.' ∉ chain.root.toList

def Node.IsAttribute (node : Node) : Prop :=
  ∃ span value attr ctx, node = .expr (.attribute span value attr ctx)

theorem Says.lookup?_eq_none {node : Node} {trigger : Trigger} (said : Says node trigger)
    (foreign : ¬ IsImport node) (plain : ¬ node.IsAttribute) (s : State) :
    trigger.lookup? s = none := by
  cases said with
  | importName imports => exact absurd imports foreign
  | chain isAttribute => exact absurd ⟨_, _, _, _, isAttribute⟩ plain
  | _ => rfl

theorem Node.lookups_eq_nil {node : Node} (foreign : ¬ IsImport node) (plain : ¬ node.IsAttribute)
    (bindings : String → Option String) : node.lookups bindings = [] := by
  unfold lookups
  split
  · exact absurd .modules foreign
  · exact absurd .names foreign
  · exact absurd ⟨_, _, _, _, rfl⟩ plain
  · rfl

theorem lookup?_ofImport (s : State) (names : List Alias) :
    (Trigger.ofImport names).filterMap (Trigger.lookup? s) = names.map (·.name) := by
  induction names with
  | nil => rfl
  | cons a rest ih =>
    rw [Trigger.ofImport] at ih ⊢
    rw [List.flatMap_cons, List.filterMap_append, ih]
    cases a.asName <;> simp [List.filterMap_cons, Trigger.lookup?]

theorem lookup?_ofImportFrom (s : State) (origin : String) (names : List Alias) :
    (Trigger.ofImportFrom origin names).filterMap (Trigger.lookup? s) =
      names.flatMap fun a =>
        if a.name = "*" then [origin] else [origin, origin ++ "." ++ a.name] := by
  rw [Trigger.ofImportFrom, List.filterMap_flatMap]
  congr 1
  funext a
  by_cases star : a.name = "*"
  · simp [star, Trigger.lookup?]
  · simp [star, List.filterMap_cons, Trigger.lookup?]

theorem lookup?_ofAttribute (s : State) {span : Span} {value : Expr} {attr : String} {ctx : Context}
    (dotless : Node.DotlessRoot (.expr (.attribute span value attr ctx))) :
    (Trigger.ofExpr (.attribute span value attr ctx)).filterMap (Trigger.lookup? s) =
      Node.lookups s.bindings.get? (.expr (.attribute span value attr ctx)) := by
  rw [Trigger.ofExpr, Node.lookups, Chain.dotted?_eq]
  cases found : Chain.ofExpr? (.attribute span value attr ctx) with
  | none => rfl
  | some chain =>
    have root := dotless _ chain rfl found
    simp only [Option.map_some, rootOf_text root]
    by_cases own : chain.root = "self"
    · rw [if_pos own, if_pos own]
      rfl
    · rw [if_neg own, if_neg own, ← resolve_text s root]
      rfl

/-- The triggers of a node look up what the node looks up under the bindings of the state. -/
theorem lookup?_triggers (s : State) {node : Node} (dotless : node.DotlessRoot) :
    node.triggers.filterMap (Trigger.lookup? s) = node.lookups s.bindings.get? := by
  by_cases imports : IsImport node
  · cases imports with
    | @modules span names => exact lookup?_ofImport s names
    | @names span origin names level =>
      cases origin with
      | none => rfl
      | some origin => exact lookup?_ofImportFrom s origin names
  · by_cases isAttribute : node.IsAttribute
    · obtain ⟨span, value, attr, ctx, rfl⟩ := isAttribute
      exact lookup?_ofAttribute s dotless
    · rw [Node.lookups_eq_nil imports isAttribute, List.filterMap_eq_nil_iff]
      intro trigger held
      exact (Says.of_mem held).lookup?_eq_none imports isAttribute s

theorem modules_node (s : State) {node : Node} (dotless : node.DotlessRoot) :
    (node.triggers.filterMap (s.finding? changelogs)).filterMap (Finding.inTable? .modules) =
      changelogs.modules.found (node.lookups s.bindings.get?) := by
  rw [Table.found, ← lookup?_triggers s dotless, List.filterMap_filterMap, List.filterMap_filterMap]
  simp only [modules_finding?]

/-- The entries found among the modules are those of the names that nodes look up. -/
theorem modules_findings_nodes (baseline : Version) (before : List Node) {nodes : List Node}
    (dotless : ∀ node ∈ nodes, node.DotlessRoot) :
    (findings changelogs (after changelogs (.fresh baseline) (before.flatMap Node.triggers))
        (nodes.flatMap Node.triggers)).filterMap (Finding.inTable? .modules) =
      changelogs.modules.found (lookups before nodes) := by
  induction nodes generalizing before with
  | nil => rfl
  | cons node rest ih =>
    obtain ⟨here, later⟩ := List.forall_mem_cons.1 dotless
    have passed : after changelogs
        (after changelogs (.fresh baseline) (before.flatMap Node.triggers)) node.triggers =
        after changelogs (.fresh baseline) ((before ++ [node]).flatMap Node.triggers) := by
      rw [List.flatMap_append, after_append, List.flatMap_singleton]
    rw [findings_nodes_cons, List.filterMap_append, modules_node _ here, bindings_after, passed,
      ih (before ++ [node]) later, lookups, Table.found, Table.found, Table.found,
      List.filterMap_append]

def DotlessNames (body : List Stmt) : Prop :=
  ∀ place span id ctx, nodeAt? body place = some (.expr (.name span id ctx)) → '.' ∉ id.toList

/-- The root of a chain in a script is a name in the script. -/
theorem exists_root_place {body : List Stmt} {place : Place} {e : Expr} {chain : Chain}
    (reached : nodeAt? body place = some (.expr e)) (found : Chain.ofExpr? e = some chain) :
    ∃ lower span ctx, nodeAt? body lower = some (.expr (.name span chain.root ctx)) := by
  induction e using Chain.ofExpr?.induct generalizing place chain with
  | case1 span id ctx =>
    cases found
    exact ⟨place, span, ctx, reached⟩
  | case2 span value attr ctx ih =>
    obtain ⟨inner, spelled, rfl⟩ := Option.map_eq_some_iff.1 found
    have below : nodeAt? body (place ++ [(.value, 0)]) = some (.expr value) :=
      nodeAt?_append reached _
    have root := ih below spelled
    exact root
  | case3 e notName notAttribute =>
    rw [Chain.ofExpr?] at found
    · cases found
    · exact notName
    · exact notAttribute

theorem DotlessNames.dotlessRoot {body : List Stmt} (dotless : DotlessNames body) {node : Node}
    (held : node ∈ nodes body) : node.DotlessRoot := by
  rintro e chain rfl found
  obtain ⟨place, reached⟩ := mem_nodes_iff.1 held
  obtain ⟨lower, span, ctx, root⟩ := exists_root_place reached found
  exact dotless lower span chain.root ctx root

end VersionFloor.Analysis
