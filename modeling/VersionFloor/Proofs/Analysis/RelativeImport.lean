import VersionFloor.Proofs.Analysis.MinimumVersion

set_option autoImplicit false

namespace VersionFloor.Analysis

open Script

variable {changelogs : Changelogs}

namespace Node

def level : Node → Nat
  | stmt (.importFrom _ _ _ level) => level
  | _ => 0

/--
`from .asyncio import run` names a module of the package that the script is in and says nothing
about the standard module of that name.
-/
def IsRelative (node : Node) : Prop :=
  0 < node.level

/-- The local names that an import makes known. -/
def locals : Node → List String
  | stmt (.importModules _ names) => names.map fun a => a.asName.getD (rootOf a.name)
  | stmt (.importFrom _ _ names _) =>
    (names.filter (·.name ≠ "*")).map fun a => a.asName.getD a.name
  | _ => []

end Node

/-- The last of the nodes that give the name is a relative import. -/
def LastRelative (names : Node → List String) (before : List Node) (name : String) : Prop :=
  ∃ earlier node later, before = earlier ++ node :: later ∧ node.IsRelative ∧ name ∈ names node ∧
    ∀ other ∈ later, name ∉ names other

/--
The last import of the name is a relative one, or what is remembered of it comes from a relative
one.
-/
def RelativelyBound (before : List Node) (name : String) : Prop :=
  LastRelative Node.locals before name ∨ LastRelative (fun node => node.bound.map (·.1)) before name

/-- A relative import, or a chain whose root is bound by one. -/
inductive RestsOnRelative (before : List Node) : Node → Prop
  | source {node : Node} (relative : node.IsRelative) : RestsOnRelative before node
  | chain {e : Expr} {chain : Chain} (spelled : Chain.ofExpr? e = some chain)
      (bound : RelativelyBound before chain.root) : RestsOnRelative before (.expr e)

/--
The name is looked up for an absolute import of it or for a chain whose root no relative import
binds.
-/
def Justified (body : List Stmt) (name : String) : Prop :=
  ∃ before node, Reached body before node ∧ ¬ RestsOnRelative before node ∧
    name ∈ node.lookups (boundBy before)

theorem Reached.occurs_of_mem {body : List Stmt} {before : List Node} {node other : Node}
    (reached : Reached body before node) (held : other ∈ before) : Occurs body other := by
  obtain ⟨later, split⟩ := reached
  rw [Occurs, ← mem_nodes_iff, ← inPreorder_eq_nodes, split]
  exact List.mem_append_left _ held

/-- What rests on a relative import needs one in the script. -/
theorem RestsOnRelative.exists_isRelative {body : List Stmt} {before : List Node} {node : Node}
    (rests : RestsOnRelative before node) (reached : Reached body before node) :
    ∃ other, Occurs body other ∧ other.IsRelative := by
  cases rests with
  | source relative => exact ⟨node, occurs_iff_reached.2 ⟨before, reached⟩, relative⟩
  | chain spelled bound =>
    rcases bound with
      ⟨earlier, other, later, rfl, relative, -⟩ | ⟨earlier, other, later, rfl, relative, -⟩
    · exact ⟨other, reached.occurs_of_mem (by simp), relative⟩
    · exact ⟨other, reached.occurs_of_mem (by simp), relative⟩

/--
A relative import that names a module looks up and binds what the absolute one does, in every state.
-/
theorem visit_relative_eq_visit_absolute (changelogs : Changelogs) (s : State) (span : Span)
    (origin : String) (names : List Alias) (level : Nat) :
    let relative := Node.stmt (.importFrom span (some origin) names level)
    let absolute := Node.stmt (.importFrom span (some origin) names 0)
    relative.lookups = absolute.lookups ∧ relative.bound = absolute.bound ∧
      visit changelogs s relative = visit changelogs s absolute := by
  intro relative absolute
  have leaf : ∀ level, (Node.stmt (.importFrom span (some origin) names level)).preorder =
      [.stmt (.importFrom span (some origin) names level)] := by
    intro level
    rw [Node.preorder_eq]
    rfl
  refine ⟨rfl, rfl, ?_⟩
  rw [visit_eq_run, visit_eq_run, leaf, leaf]
  rfl

/--
Every module reported is justified without relative imports just where each name that is looked up
for one of these, or for a chain on a name that one of these binds, is unknown to the changelog or
justified otherwise. So it is in scripts that have no relative imports.
-/
theorem modules_justified_iff {baseline : Version} {body : List Stmt} {s : State}
    (dotless : DotlessNames body) (ended : analyze changelogs (.fresh baseline) body = (s, none)) :
    ((∀ name ∈ s.modules.names, Justified body name) ↔
      ∀ before node, Reached body before node → RestsOnRelative before node →
        ∀ name ∈ node.lookups (boundBy before), name ∈ changelogs.modules.names →
          Justified body name) ∧
    ((∀ node, Occurs body node → ¬ node.IsRelative) →
      ∀ name ∈ s.modules.names, Justified body name) := by
  obtain ⟨-, rfl⟩ := analyze_eq_ok_iff.1 ended
  have exact : (∀ name ∈ (after changelogs (.fresh baseline) (triggers body)).modules.names,
      Justified body name) ↔
      ∀ before node, Reached body before node → RestsOnRelative before node →
        ∀ name ∈ node.lookups (boundBy before), name ∈ changelogs.modules.names →
          Justified body name := by
    constructor
    · intro justified before node reached _ name looked known
      obtain ⟨r, entry⟩ := Table.exists_mem_of_mem_names known
      apply justified name
      apply Table.mem_names_of_mem
      exact collected_of_lookup baseline dotless reached looked (Table.get?_eq_some_iff.2 entry)
    · intro covered name reported
      obtain ⟨r, held⟩ := Table.exists_mem_of_mem_names reported
      obtain ⟨before, node, reached, looked, entry⟩ := lookup_of_collected dotless held
      by_cases rests : RestsOnRelative before node
      · exact covered before node reached rests name looked
          (Table.mem_names_of_mem (Table.get?_eq_some_iff.1 entry))
      · exact ⟨before, node, reached, rests, looked⟩
  refine ⟨exact, ?_⟩
  intro absolute
  refine exact.2 fun before node reached rests => ?_
  obtain ⟨other, occurs, relative⟩ := rests.exists_isRelative reached
  exact absurd relative (absolute other occurs)

/-- `from .asyncio import *`. -/
def relativeStar : Stmt :=
  .importFrom ⟨0, 22⟩ (some "asyncio") [⟨⟨21, 22⟩, "*", none⟩] 1

/-- The same and, on a line of its own, `import asyncio`. -/
def relativeThenPlain : List Stmt :=
  [relativeStar, .importModules ⟨23, 37⟩ [⟨⟨30, 37⟩, "asyncio", none⟩]]

theorem inPreorder_relativeStar : inPreorder [relativeStar] = [.stmt relativeStar] := by
  rw [inPreorder_eq_nodes]
  simp [nodes, relativeStar, Node.preorder_eq, Node.children, Node.ofStmt]

theorem inPreorder_relativeThenPlain :
    inPreorder relativeThenPlain = relativeThenPlain.map .stmt := by
  rw [inPreorder_eq_nodes]
  simp [nodes, relativeThenPlain, relativeStar, Node.preorder_eq, Node.children, Node.ofStmt]

/-- With the plain import there, the standard module is named rightly as well. -/
theorem relativeThenPlain_justified :
    ∃ s, analyze Changelogs.builtin (.fresh .baseline) relativeThenPlain = (s, none) ∧
      s.modules.names = ["asyncio"] ∧
        ∀ name ∈ s.modules.names, Justified relativeThenPlain name := by
  have ended := analyze_builtin (.fresh .baseline) relativeThenPlain
  have dotless : DotlessNames relativeThenPlain := by
    intro place span id ctx found
    have held := mem_nodes_iff.2 ⟨place, found⟩
    rw [← inPreorder_eq_nodes, inPreorder_relativeThenPlain] at held
    simp [relativeThenPlain] at held
  have names :
      (after Changelogs.builtin (.fresh .baseline) (triggers relativeThenPlain)).modules.names =
      ["asyncio"] := by
    rw [triggers, ← inPreorder_eq_nodes, inPreorder_relativeThenPlain]
    decide +kernel
  have justified : Justified relativeThenPlain "asyncio" := by
    refine ⟨[.stmt relativeStar], _, ⟨[], inPreorder_relativeThenPlain⟩, ?_, by decide⟩
    rintro ⟨relative⟩
    cases relative
  refine ⟨_, ended, names, (modules_justified_iff dotless ended).1.2 ?_⟩
  rintro before node ⟨later, split⟩ - name looked -
  have held : node ∈ relativeThenPlain.map Node.stmt := by
    rw [← inPreorder_relativeThenPlain, split]
    exact List.mem_append_right _ List.mem_cons_self
  have same : name = "asyncio" := by
    simp only [relativeThenPlain, relativeStar, List.map_cons, List.map_nil, List.mem_cons,
      List.not_mem_nil, or_false] at held
    rcases held with rfl | rfl <;> simpa [Node.lookups] using looked
  exact same ▸ justified

/-- The relative import is reported as the standard module, which nothing in the script names. -/
theorem relative_star_counts_as_standard :
    ∃ s, analyze Changelogs.builtin (.fresh .baseline) [relativeStar] = (s, none) ∧
      s.modules.names = ["asyncio"] ∧ s.version = ⟨4, none⟩ ∧
        ¬ Justified [relativeStar] "asyncio" := by
  have listed : triggers [relativeStar] = [.importName "asyncio"] := by
    rw [triggers, ← inPreorder_eq_nodes, inPreorder_relativeStar]
    decide +kernel
  refine ⟨_, analyze_builtin _ _, ?_, ?_, ?_⟩
  · rw [listed]
    decide +kernel
  · rw [listed]
    decide +kernel
  · rintro ⟨before, node, ⟨later, split⟩, absolute, -⟩
    rw [inPreorder_relativeStar] at split
    have same : node = .stmt relativeStar := by
      have held : node ∈ [Node.stmt relativeStar] := by simp [split]
      exact List.mem_singleton.1 held
    exact absolute (.source (same ▸ Nat.one_pos))

end VersionFloor.Analysis
