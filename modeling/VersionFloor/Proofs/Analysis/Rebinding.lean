import VersionFloor.Proofs.Analysis.MinimumVersion

set_option autoImplicit false

namespace VersionFloor.Analysis

open Script

variable {changelogs : Changelogs}

/-- How an import introduces a local name. -/
inductive Introduction
  /-- As something with a name of its own, under which it is looked up. -/
  | bound (name origin : String)
  /-- As the outermost package of a plain import. -/
  | plain (name : String)
deriving DecidableEq

namespace Introduction

def meaning : Introduction → String × String
  | bound name origin => (name, origin)
  | plain name => (name, name)

def binding? : Introduction → Option (String × String)
  | bound name origin => some (name, origin)
  | plain _ => none

end Introduction

def Node.introduced : Node → List Introduction
  | stmt (.importModules _ names) =>
    names.map fun a => a.asName.elim (.plain (rootOf a.name)) fun name => .bound name a.name
  | stmt (.importFrom _ (some origin) names _) =>
    (names.filter (·.name ≠ "*")).map fun a =>
      .bound (a.asName.getD a.name) (origin ++ "." ++ a.name)
  | _ => []

/-- What the local names stand for after nodes: what the last import of each says. -/
def inForce (before : List Node) : String → Option String :=
  latest ((before.flatMap Node.introduced).map Introduction.meaning)

/--
The name was bound to something else, and since then it was introduced by plain imports only. These
say that it stands for itself, but an analysis lets the binding stand.
-/
def Stale (introduced : List Introduction) (name : String) : Prop :=
  ∃ earlier origin later, introduced = earlier ++ .bound name origin :: later ∧ origin ≠ name ∧
    (∀ other, .bound name other ∉ later) ∧ .plain name ∈ later

theorem latest_append (first second : List (String × String)) (name : String) :
    latest (first ++ second) name = (latest second name).or (latest first name) := by
  rw [latest, latest, latest, List.reverse_append, List.lookup_append]

theorem latest_cons (name origin : String) (rest : List (String × String)) :
    latest ((name, origin) :: rest) name = (latest rest name).or (some origin) := by
  have alone : latest [(name, origin)] name = some origin := by simp [latest]
  rw [← List.singleton_append, latest_append, alone]

theorem latest_eq_none_iff {pairs : List (String × String)} {name : String} :
    latest pairs name = none ↔ ∀ pair ∈ pairs, pair.1 ≠ name := by
  simp only [latest, List.lookup_eq_none_iff, List.mem_reverse, bne_iff_ne]
  exact forall₂_congr fun pair _ => ne_comm

section Introductions

variable {introduced : List Introduction} {name origin : String}

/--
Where a name is introduced by plain imports only, it stands for itself or is not introduced at all.
-/
theorem latest_meaning_of_unbound (unbound : ∀ origin, .bound name origin ∉ introduced) :
    latest (introduced.map Introduction.meaning) name =
      if .plain name ∈ introduced then some name else none := by
  by_cases known : .plain name ∈ introduced
  · rw [if_pos known]
    cases found : latest (introduced.map Introduction.meaning) name with
    | none => exact absurd rfl (latest_eq_none_iff.1 found _ (List.mem_map_of_mem known))
    | some origin =>
      obtain ⟨earlier, later, split, -⟩ := latest_eq_some_iff.1 found
      have listed : (name, origin) ∈ introduced.map Introduction.meaning := by simp [split]
      obtain ⟨introduction, held, same⟩ := List.mem_map.1 listed
      cases introduction with
      | bound _ _ =>
        cases same
        exact absurd held (unbound origin)
      | plain _ =>
        cases same
        rfl
  · rw [if_neg known, latest_eq_none_iff]
    intro pair listed same
    obtain ⟨introduction, held, rfl⟩ := List.mem_map.1 listed
    cases introduction with
    | bound _ _ =>
      cases same
      exact unbound _ held
    | plain _ =>
      cases same
      exact known held

theorem latest_binding?_eq_none_iff :
    latest (introduced.filterMap Introduction.binding?) name = none ↔
      ∀ origin, .bound name origin ∉ introduced := by
  rw [latest_eq_none_iff]
  constructor
  · intro absent origin held
    exact absent (name, origin) (List.mem_filterMap.2 ⟨_, held, rfl⟩) rfl
  · rintro unbound ⟨_, origin⟩ listed rfl
    obtain ⟨introduction, held, same⟩ := List.mem_filterMap.1 listed
    cases introduction with
    | bound _ _ =>
      cases same
      exact unbound origin held
    | plain _ => cases same

/-- The last binding of a name has no other one after it. -/
theorem latest_binding?_eq_some_iff :
    latest (introduced.filterMap Introduction.binding?) name = some origin ↔
      ∃ earlier later, introduced = earlier ++ .bound name origin :: later ∧
        ∀ other, .bound name other ∉ later := by
  constructor
  · intro found
    obtain ⟨front, back, split, absent⟩ := latest_eq_some_iff.1 found
    obtain ⟨first, second, rfl, -, tail⟩ := List.filterMap_eq_append_iff.1 split
    obtain ⟨skipped, introduction, later, rfl, -, same, rest⟩ := List.filterMap_eq_cons_iff.1 tail
    cases introduction with
    | bound _ _ =>
      cases same
      refine ⟨first ++ skipped, later, (List.append_assoc _ _ _).symm, ?_⟩
      intro other held
      exact absent (name, other) (rest ▸ List.mem_filterMap.2 ⟨_, held, rfl⟩) rfl
    | plain _ => cases same
  · rintro ⟨earlier, later, rfl, none⟩
    have here : Introduction.binding? (.bound name origin) = some (name, origin) := rfl
    rw [List.filterMap_append, List.filterMap_cons_some here, latest_append, latest_cons,
      latest_binding?_eq_none_iff.2 none]
    rfl

/--
After its last binding a name stands for what that says, or for itself if a plain import follows.
-/
theorem latest_meaning_of_last {earlier later : List Introduction}
    (last : ∀ other, .bound name other ∉ later) :
    latest ((earlier ++ .bound name origin :: later).map Introduction.meaning) name =
      some (if .plain name ∈ later then name else origin) := by
  rw [List.map_append, List.map_cons, latest_append, Introduction.meaning, latest_cons,
    latest_meaning_of_unbound last]
  split <;> rfl

/-- What is remembered of a name is what it stands for, unless it is stale. -/
theorem remembered_iff_not_stale :
    (latest (introduced.filterMap Introduction.binding?) name).getD name =
        (latest (introduced.map Introduction.meaning) name).getD name ↔
      ¬ Stale introduced name := by
  constructor
  · rintro same ⟨earlier, origin, later, rfl, differs, last, plain⟩
    rw [latest_binding?_eq_some_iff.2 ⟨earlier, later, rfl, last⟩, latest_meaning_of_last last,
      if_pos plain] at same
    exact differs same
  · intro fresh
    cases found : latest (introduced.filterMap Introduction.binding?) name with
    | none =>
      rw [latest_meaning_of_unbound (latest_binding?_eq_none_iff.1 found)]
      split <;> rfl
    | some origin =>
      obtain ⟨earlier, later, rfl, last⟩ := latest_binding?_eq_some_iff.1 found
      rw [latest_meaning_of_last last, Option.getD_some, Option.getD_some]
      by_cases plain : .plain name ∈ later
      · rw [if_pos plain]
        by_contra differs
        exact fresh ⟨earlier, origin, later, rfl, differs, last, plain⟩
      · rw [if_neg plain]

end Introductions

theorem Node.bound_eq (node : Node) :
    node.bound = node.introduced.filterMap Introduction.binding? := by
  cases node with
  | stmt s =>
    cases s with
    | importModules span names =>
      rw [bound, introduced, List.filterMap_map]
      apply List.filterMap_congr
      intro a _
      simp only [Function.comp_apply]
      cases a.asName <;> rfl
    | importFrom span origin names level =>
      cases origin with
      | none => rfl
      | some origin =>
        rw [bound, introduced, List.filterMap_map, ← List.filterMap_eq_map]
        rfl
    | _ => rfl
  | _ => rfl

theorem boundBy_eq (before : List Node) :
    boundBy before = latest ((before.flatMap Node.introduced).filterMap Introduction.binding?) := by
  rw [boundBy, List.filterMap_flatMap]
  congr 2
  funext node
  exact Node.bound_eq node

/-- The state resolves a chain as the imports in force do, unless the root of the chain is stale. -/
theorem resolve_eq_resolved_inForce_iff (baseline : Version) (before : List Node) {chain : Chain}
    (dotless : '.' ∉ chain.root.toList) :
    (after changelogs (.fresh baseline) (before.flatMap Node.triggers)).resolve chain.text =
        chain.resolved (inForce before) ↔
      ¬ Stale (before.flatMap Node.introduced) chain.root := by
  rw [resolve_text _ dotless, bindings_after, Chain.resolved, Chain.resolved,
    String.append_left_inj, boundBy_eq, inForce, remembered_iff_not_stale]

/-- A chain of attributes that is looked up stands in the script after the nodes `before`. -/
def UsesChain (body : List Stmt) (before : List Node) (chain : Chain) : Prop :=
  ∃ span value attr ctx, Reached body before (.expr (.attribute span value attr ctx)) ∧
    Chain.ofExpr? (.attribute span value attr ctx) = some chain ∧ chain.root ≠ "self"

theorem UsesChain.dotless {body : List Stmt} {before : List Node} {chain : Chain}
    (used : UsesChain body before chain) (dotless : DotlessNames body) :
    '.' ∉ chain.root.toList := by
  obtain ⟨span, value, attr, ctx, reached, spelled, -⟩ := used
  have held := mem_nodes_iff.2 (occurs_iff_reached.2 ⟨before, reached⟩)
  exact dotless.dotlessRoot held _ chain rfl spelled

/--
Under bindings that agree on the root of a chain the chain looks up the same; other nodes need no
bindings.
-/
theorem Node.lookups_congr {node : Node} {one other : String → Option String}
    (same : ∀ span value attr ctx chain, node = .expr (.attribute span value attr ctx) →
      Chain.ofExpr? (.attribute span value attr ctx) = some chain → chain.root ≠ "self" →
      chain.resolved one = chain.resolved other) : node.lookups one = node.lookups other := by
  cases node with
  | stmt s =>
    cases s with
    | importFrom span origin names level => cases origin <;> rfl
    | _ => rfl
  | expr e =>
    cases e with
    | «attribute» span value attr ctx =>
      rw [lookups, lookups]
      cases spelled : Chain.ofExpr? (.attribute span value attr ctx) with
      | none => rfl
      | some chain =>
        by_cases own : chain.root = "self"
        · simp only [own, ↓reduceIte]
        · simp only [own, ↓reduceIte, same span value attr ctx chain rfl spelled own]
    | _ => rfl
  | _ => rfl

/--
The name that is looked up for a chain is the one that the latest import of its root gives, just
where the root is not stale. In a script that uses no stale name the modules reported are all that
is known under these names and under the names in the imports.
-/
theorem latest_import_wins_iff_not_stale {baseline : Version} {body : List Stmt} {s : State}
    (dotless : DotlessNames body) (ended : analyze changelogs (.fresh baseline) body = (s, none)) :
    (∀ before chain, UsesChain body before chain →
      ((after changelogs (.fresh baseline) (before.flatMap Node.triggers)).resolve chain.text =
          chain.resolved (inForce before) ↔
        ¬ Stale (before.flatMap Node.introduced) chain.root)) ∧
    ((∀ before chain, UsesChain body before chain →
      ¬ Stale (before.flatMap Node.introduced) chain.root) →
      ∀ name r, (name, r) ∈ s.modules.entries ↔ changelogs.modules.get? name = some r ∧
        ∃ before node, Reached body before node ∧ name ∈ node.lookups (inForce before)) := by
  have resolves : ∀ before chain, UsesChain body before chain →
      ((after changelogs (.fresh baseline) (before.flatMap Node.triggers)).resolve chain.text =
          chain.resolved (inForce before) ↔
        ¬ Stale (before.flatMap Node.introduced) chain.root) :=
    fun before chain used => resolve_eq_resolved_inForce_iff baseline before (used.dotless dotless)
  refine ⟨resolves, ?_⟩
  intro fresh name r
  have same : ∀ before node, Reached body before node →
      node.lookups (boundBy before) = node.lookups (inForce before) := by
    intro before node reached
    apply Node.lookups_congr
    rintro span value attr ctx chain rfl spelled foreign
    have used : UsesChain body before chain := ⟨span, value, attr, ctx, reached, spelled, foreign⟩
    have found := (resolves before chain used).2 (fresh before chain used)
    rwa [resolve_text _ (used.dotless dotless), bindings_after] at found
  obtain ⟨-, rfl⟩ := analyze_eq_ok_iff.1 ended
  rw [mem_modules_after baseline dotless, mem_lookups_inPreorder]
  apply and_congr_right
  intro _
  constructor
  · rintro ⟨before, node, reached, looked⟩
    exact ⟨before, node, reached, same before node reached ▸ looked⟩
  · rintro ⟨before, node, reached, looked⟩
    exact ⟨before, node, reached, (same before node reached).symm ▸ looked⟩

/-- `import uvloop as asyncio`, a second import and, from `start` on, `asyncio.run`. -/
def runAfter (second : Stmt) (start : Nat) : List Stmt :=
  [.importModules ⟨0, 24⟩ [⟨⟨7, 24⟩, "uvloop", some "asyncio"⟩], second,
   .expr ⟨start, start + 11⟩
     (.attribute ⟨start, start + 11⟩ (.name ⟨start, start + 7⟩ "asyncio" .load) "run" .load)]

theorem inPreorder_runAfter {second : Stmt} (imports : IsImport (.stmt second)) (start : Nat) :
    inPreorder (runAfter second start) = (runAfter second start).map .stmt ++
      [.expr
        (.attribute ⟨start, start + 11⟩ (.name ⟨start, start + 7⟩ "asyncio" .load) "run" .load),
       .expr (.name ⟨start, start + 7⟩ "asyncio" .load)] := by
  rw [inPreorder_eq_nodes]
  cases imports <;>
    simp [nodes, runAfter, Node.preorder_eq, Node.children, Node.ofStmt, Node.ofExpr]

theorem usesChain_runAfter {second : Stmt} (imports : IsImport (.stmt second)) (start : Nat) :
    UsesChain (runAfter second start) ((runAfter second start).map .stmt) ⟨"asyncio", ["run"]⟩ :=
  ⟨_, _, _, _, ⟨_, inPreorder_runAfter imports start⟩, rfl, by decide⟩

/-- The attribute is the only one, and the three statements come before it. -/
theorem eq_of_usesChain_runAfter {second : Stmt} (imports : IsImport (.stmt second)) {start : Nat}
    {before : List Node} {chain : Chain} (used : UsesChain (runAfter second start) before chain) :
    before = (runAfter second start).map .stmt := by
  obtain ⟨span, value, attr, ctx, ⟨later, split⟩, -, -⟩ := used
  rw [inPreorder_runAfter imports, runAfter] at split
  rcases before with _ | ⟨_, _ | ⟨_, _ | ⟨_, _ | ⟨_, _ | ⟨_, before⟩⟩⟩⟩⟩ <;> simp at split
  obtain ⟨rfl, rfl, rfl, -⟩ := split
  rfl

theorem dotlessNames_runAfter {second : Stmt} (imports : IsImport (.stmt second)) (start : Nat) :
    DotlessNames (runAfter second start) := by
  intro place span id ctx found
  have held := mem_nodes_iff.2 ⟨place, found⟩
  rw [← inPreorder_eq_nodes, inPreorder_runAfter imports] at held
  simp only [runAfter, List.map_cons, List.map_nil, List.mem_append, List.mem_cons,
    List.not_mem_nil, reduceCtorEq, Node.expr.injEq, Expr.name.injEq, false_or, or_false] at held
  obtain ⟨-, rfl, -⟩ := held
  decide

/-- `import asyncio`. -/
def plainImport : Stmt :=
  .importModules ⟨25, 39⟩ [⟨⟨32, 39⟩, "asyncio", none⟩]

/-- `import asyncio as asyncio`. -/
def renamedImport : Stmt :=
  .importModules ⟨25, 50⟩ [⟨⟨32, 50⟩, "asyncio", some "asyncio"⟩]

/-- Imported under its own name, `asyncio` is itself again, and `asyncio.run` is reported. -/
theorem renamed_import_wins :
    ∃ s, analyze Changelogs.builtin (.fresh .baseline) (runAfter renamedImport 51) = (s, none) ∧
      "asyncio.run" ∈ s.modules.names := by
  have imports : IsImport (.stmt renamedImport) := .modules
  have ended := analyze_builtin (.fresh .baseline) (runAfter renamedImport 51)
  obtain ⟨-, exact⟩ := latest_import_wins_iff_not_stale (dotlessNames_runAfter imports 51) ended
  have fresh : ∀ before chain, UsesChain (runAfter renamedImport 51) before chain →
      ¬ Stale (before.flatMap Node.introduced) chain.root := by
    rintro before chain used ⟨earlier, origin, later, split, -, -, plain⟩
    rw [eq_of_usesChain_runAfter imports used] at split
    have listed : .plain chain.root ∈
        ((runAfter renamedImport 51).map Node.stmt).flatMap Node.introduced := by
      rw [split]
      exact List.mem_append_right _ (List.mem_cons_of_mem _ plain)
    simp [runAfter, renamedImport, Node.introduced] at listed
  have known : (Changelogs.builtin.modules.get? "asyncio.run").isSome = true := by decide +kernel
  obtain ⟨r, entry⟩ := Option.isSome_iff_exists.1 known
  have reached := inPreorder_runAfter imports 51
  refine ⟨_, ended,
    Table.mem_names_of_mem ((exact fresh "asyncio.run" r).2 ⟨entry, _, _, ⟨_, reached⟩, ?_⟩)⟩
  decide +kernel

/--
After the plain import `asyncio` is still taken for `uvloop`: the name in force is `asyncio.run`,
which the changelog knows, and the one looked up is `uvloop.run`, so the requirement is lost.
-/
theorem plain_import_leaves_binding_stale :
    ∃ s, analyze Changelogs.builtin (.fresh .baseline) (runAfter plainImport 40) = (s, none) ∧
      s.modules.names = ["asyncio"] ∧ s.version = ⟨4, none⟩ ∧
      ∃ before chain, UsesChain (runAfter plainImport 40) before chain ∧
        (after Changelogs.builtin (.fresh .baseline) (before.flatMap Node.triggers)).resolve
          chain.text = "uvloop.run" ∧
        chain.resolved (inForce before) = "asyncio.run" ∧
          "asyncio.run" ∈ Changelogs.builtin.modules.names := by
  have imports : IsImport (.stmt plainImport) := .modules
  have listed : triggers (runAfter plainImport 40) =
      [.importName "uvloop", .bind "asyncio" "uvloop", .importName "asyncio",
       .chain "asyncio.run"] := by
    rw [triggers, ← inPreorder_eq_nodes, inPreorder_runAfter imports]
    decide +kernel
  refine ⟨_, analyze_builtin _ _, ?_, ?_, _, _, usesChain_runAfter imports 40, ?_, ?_, ?_⟩
  · rw [listed]
    decide +kernel
  · rw [listed]
    decide +kernel
  · decide +kernel
  · decide +kernel
  · decide +kernel

end VersionFloor.Analysis
