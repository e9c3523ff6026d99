import VersionFloor.Proofs.Analysis.Baseline
import VersionFloor.Proofs.Analysis.MinimumVersion
import VersionFloor.Proofs.Analysis.Repetition

set_option autoImplicit false

namespace VersionFloor.Analysis

open Script

/-- Entries under one key were added in one version, whichever items they come from. -/
def AddedAgree {α : Type} (items : List α) (entry : α → String → Option Requirement) : Prop :=
  ∀ one ∈ items, ∀ other ∈ items, ∀ key first second,
    entry one key = some first → entry other key = some second → first.added = second.added

/-- What is found in a statement that stands alone. -/
def alone (changelogs : Changelogs) (stmt : Stmt) : State :=
  (analyze changelogs (.fresh .baseline) [stmt]).1

/-- Entries that two statements report under one key, each on its own, were added in one version. -/
def StatementsAgree (changelogs : Changelogs) (body : List Stmt) : Prop :=
  AddedAgree body fun stmt => (alone changelogs stmt).language.get?

variable {changelogs : Changelogs}

theorem triggers_cons (stmt : Stmt) (rest : List Stmt) :
    triggers (stmt :: rest) = triggers [stmt] ++ triggers rest := by
  simp only [triggers, nodes, List.map_cons, List.map_nil, List.flatMap_cons, List.flatMap_nil,
    List.append_nil, List.flatMap_append]

/-- Statements in another order have the same triggers in another order. -/
theorem triggers_perm {body other : List Stmt} (reordered : body.Perm other) :
    (triggers body).Perm (triggers other) :=
  ((reordered.map Node.stmt).flatMap_right Node.preorder).flatMap_right Node.triggers

/--
Where nothing is bound, the first statement that has anything under a key decides what is found
under it.
-/
theorem lookup_findings {part : Finding → Option (String × Requirement)} {s : State}
    {body : List Stmt} (unbound : ∀ trigger ∈ triggers body, trigger.binding? = none)
    (key : String) :
    ((findings changelogs s (triggers body)).filterMap part).lookup key =
      body.findSome? fun stmt =>
        ((findings changelogs s (triggers [stmt])).filterMap part).lookup key := by
  induction body with
  | nil => rfl
  | cons stmt rest ih =>
    rw [triggers_cons, List.forall_mem_append] at unbound
    obtain ⟨here, later⟩ := unbound
    have same : (after changelogs s (triggers [stmt])).bindings = s.bindings := by
      rw [after_bindings, List.filterMap_eq_nil_iff.2 here, Table.insertAll_nil]
    rw [triggers_cons, findings_append, findings_congr same, List.filterMap_append,
      List.lookup_append, ih later, List.findSome?_cons]
    cases ((findings changelogs s (triggers [stmt])).filterMap part).lookup key <;> rfl

/--
No version is lost when only the first entry under each key counts, if entries under a key agree on
it.
-/
theorem exists_added_findSome?_iff {α : Type} {items : List α}
    {entry : α → String → Option Requirement} (agree : AddedAgree items entry) {v : Version} :
    (∃ key r, items.findSome? (entry · key) = some r ∧ r.added = some v) ↔
      ∃ item ∈ items, ∃ key r, entry item key = some r ∧ r.added = some v := by
  constructor
  · rintro ⟨key, r, found, added⟩
    obtain ⟨item, listed, entered⟩ := List.exists_of_findSome?_eq_some found
    exact ⟨item, listed, key, r, entered, added⟩
  · rintro ⟨item, listed, key, r, entered, added⟩
    have reported : (items.findSome? (entry · key)).isSome := by
      rw [List.findSome?_isSome_iff]
      exact ⟨item, listed, by rw [entered]; rfl⟩
    obtain ⟨first, found⟩ := Option.isSome_iff_exists.1 reported
    obtain ⟨earlier, listedToo, enteredToo⟩ := List.exists_of_findSome?_eq_some found
    exact ⟨key, first, found,
      (agree earlier listedToo item listed key first r enteredToo entered).trans added⟩

/--
One of the two tables of a script has the versions that the tables of its statements have, where
these agree.
-/
theorem exists_added_body (subject : Subject) {s : State} {body : List Stmt}
    (blank : s.table subject = {})
    (unbound : ∀ trigger ∈ triggers body, trigger.binding? = none)
    (agree : AddedAgree body fun stmt =>
      ((after changelogs s (triggers [stmt])).table subject).get?) {v : Version} :
    (∃ key r, ((after changelogs s (triggers body)).table subject).get? key = some r ∧
        r.added = some v) ↔
      ∃ stmt ∈ body, ∃ key r,
        ((after changelogs s (triggers [stmt])).table subject).get? key = some r ∧
          r.added = some v := by
  have found : ∀ triggers key, ((after changelogs s triggers).table subject).get? key =
      ((findings changelogs s triggers).filterMap (Finding.inTable? subject)).lookup key := by
    intro triggers key
    rw [table_after, blank, Table.get?_collect]
    rfl
  rw [← exists_added_findSome?_iff agree]
  simp only [found, lookup_findings unbound]

theorem mem_addedVersions {s : State} {v : Version} :
    v ∈ addedVersions s ↔ (∃ key r, s.language.get? key = some r ∧ r.added = some v) ∨
      ∃ key r, s.modules.get? key = some r ∧ r.added = some v := by
  simp only [addedVersions, Set.mem_ofPred_eq, List.mem_append, Prod.exists, or_and_right,
    exists_or, Table.get?_eq_some_iff]

/-- A module is found with the entry that the changelog has for it. -/
theorem get?_of_mem_findings {s : State} {triggers : List Trigger} {name : String} {r : Requirement}
    (found : ⟨.modules, name, r⟩ ∈ findings changelogs s triggers) :
    changelogs.modules.get? name = some r := by
  induction triggers generalizing s with
  | nil => cases found
  | cons trigger rest ih =>
    rw [findings, List.mem_append, Option.mem_toList] at found
    rcases found with here | later
    · have looked : (s.finding? changelogs trigger).bind (Finding.inTable? .modules) =
          some (name, r) := by
        rw [here]
        rfl
      rw [modules_finding?] at looked
      obtain ⟨_, -, held⟩ := Option.bind_eq_some_iff.1 looked
      obtain ⟨_, entry, same⟩ := Option.map_eq_some_iff.1 held
      cases same
      exact entry
    · exact ih later

theorem modules_entry {s : State} {triggers : List Trigger} {name : String} {r : Requirement}
    (unseen : s.modules = {}) (found : (after changelogs s triggers).modules.get? name = some r) :
    changelogs.modules.get? name = some r := by
  rw [← State.table_modules, table_after, State.table_modules, unseen] at found
  rcases Table.mem_collect (Table.get?_eq_some_iff.1 found) with none | offered
  · cases none
  · obtain ⟨finding, held, same⟩ := List.mem_filterMap.1 offered
    obtain ⟨subject, _, _⟩ := finding
    cases subject with
    | language => cases same
    | modules =>
      cases same
      exact get?_of_mem_findings held

theorem complete_of_mem {body : List Stmt} {stmt : Stmt} (listed : stmt ∈ body)
    (complete : ∀ trigger ∈ triggers body, trigger.missing? changelogs.language = none) :
    ∀ trigger ∈ triggers [stmt], trigger.missing? changelogs.language = none := by
  intro trigger held
  apply complete
  obtain ⟨node, inside, said⟩ := List.mem_flatMap.1 held
  refine List.mem_flatMap.2 ⟨node, ?_, said⟩
  rw [nodes, List.map_singleton, List.flatMap_singleton] at inside
  exact List.mem_flatMap.2 ⟨.stmt stmt, List.mem_map_of_mem listed, inside⟩

/-- From any baseline a statement reports what it reports alone. -/
theorem alone_language (baseline : Version) {stmt : Stmt}
    (complete : ∀ trigger ∈ triggers [stmt], trigger.missing? changelogs.language = none) :
    (alone changelogs stmt).language =
      (after changelogs (.fresh baseline) (triggers [stmt])).language := by
  have ended : analyze changelogs (.fresh baseline) [stmt] =
      (after changelogs (.fresh baseline) (triggers [stmt]), none) :=
    analyze_eq_ok_iff.2 ⟨complete, rfl⟩
  rw [analyze_fresh_eq] at ended
  rw [← (Prod.mk.inj ended).1]
  rfl

/-- The versions that a script is reported with are those of its statements, where these agree. -/
theorem addedVersions_body (baseline : Version) {body : List Stmt}
    (unbound : ∀ trigger ∈ triggers body, trigger.binding? = none)
    (complete : ∀ trigger ∈ triggers body, trigger.missing? changelogs.language = none)
    (agree : StatementsAgree changelogs body) :
    addedVersions (after changelogs (.fresh baseline) (triggers body)) =
      { v | ∃ stmt ∈ body, v ∈ addedVersions
        (after changelogs (.fresh baseline) (triggers [stmt])) } := by
  have languageAgree : AddedAgree body fun stmt =>
      (after changelogs (.fresh baseline) (triggers [stmt])).language.get? := by
    intro one listed other listedToo
    beta_reduce
    rw [← alone_language baseline (complete_of_mem listed complete),
      ← alone_language baseline (complete_of_mem listedToo complete)]
    exact agree one listed other listedToo
  have modulesAgree : AddedAgree body fun stmt =>
      (after changelogs (.fresh baseline) (triggers [stmt])).modules.get? := by
    -- The key of a module is the name it is looked up by, so the changelog has one entry for it.
    intro one _ other _ key first second found foundToo
    have same := (modules_entry rfl found).symm.trans (modules_entry rfl foundToo)
    rw [Option.some.inj same]
  ext v
  have language := exists_added_body (v := v) .language rfl unbound languageAgree
  have modules := exists_added_body (v := v) .modules rfl unbound modulesAgree
  simp only [State.table_language, State.table_modules] at language modules
  simp only [Set.mem_ofPred_eq, mem_addedVersions, language, modules, and_or_left, exists_or]

/-- Where entries under one key agree, statements do. -/
theorem statementsAgree_of_keysAgree (agree : changelogs.KeysAgree) {body : List Stmt}
    (complete : ∀ trigger ∈ triggers body, trigger.missing? changelogs.language = none) :
    StatementsAgree changelogs body := by
  have reported : ∀ stmt ∈ body, ∀ key r, (alone changelogs stmt).language.get? key = some r →
      (key, r) ∈ changelogs.reported := by
    intro stmt listed key r found
    rw [alone_language .baseline (complete_of_mem listed complete)] at found
    obtain ⟨_, _, _, entered⟩ := languageEntry_of_collected (Table.get?_eq_some_iff.1 found)
    exact mem_reported_of_languageEntry entered
  intro one listed other listedToo key first second found foundToo
  exact agree _ (reported one listed key first found) _
    (reported other listedToo key second foundToo) rfl

/--
The statements of a script without imports can be put in any other order: the analysis ends well
again, and it comes to the same version if entries that two of the statements report under one key,
each on its own, were added in one version.
-/
theorem version_of_reordered_statements {baseline : Version} {body other : List Stmt} {s : State}
    (plain : ∀ node, Occurs body node → ¬ IsImport node) (reordered : body.Perm other)
    (ended : analyze changelogs (.fresh baseline) body = (s, none)) :
    ∃ t, analyze changelogs (.fresh baseline) other = (t, none) ∧
      (StatementsAgree changelogs body → t.version = s.version) := by
  obtain ⟨complete, rfl⟩ := analyze_eq_ok_iff.1 ended
  have moved := triggers_perm reordered
  have completeToo : ∀ trigger ∈ triggers other, trigger.missing? changelogs.language = none :=
    fun trigger held => complete trigger (moved.mem_iff.2 held)
  refine ⟨_, analyze_eq_ok_iff.2 ⟨completeToo, rfl⟩, ?_⟩
  intro agree
  have unbound := List.filterMap_eq_nil_iff.1 (binding?_triggers_eq_nil plain)
  have unboundToo : ∀ trigger ∈ triggers other, trigger.binding? = none :=
    fun trigger held => unbound trigger (moved.mem_iff.2 held)
  have agreeToo : StatementsAgree changelogs other :=
    fun one listed another listedToo =>
      agree one (reordered.mem_iff.2 listed) another (reordered.mem_iff.2 listedToo)
  have versions : addedVersions (after changelogs (.fresh baseline) (triggers other)) =
      addedVersions (after changelogs (.fresh baseline) (triggers body)) := by
    rw [addedVersions_body baseline unboundToo completeToo agreeToo,
      addedVersions_body baseline unbound complete agree]
    simp only [reordered.mem_iff]
  have greatest : Floored baseline (after changelogs (.fresh baseline) (triggers body)) :=
    floored_after (floored_fresh baseline) (triggers body)
  have greatestToo : Floored baseline (after changelogs (.fresh baseline) (triggers other)) :=
    floored_after (floored_fresh baseline) (triggers other)
  rw [Floored, versions] at greatestToo
  exact greatestToo.unique greatest

/-- `aiter(it)`. -/
def aiterCall : Stmt :=
  .expr ⟨0, 9⟩ (.call ⟨0, 9⟩ (.name ⟨0, 5⟩ "aiter" .load) [.name ⟨6, 8⟩ "it" .load] [])

/-- `anext(it)` on the next line. -/
def anextCall : Stmt :=
  .expr ⟨10, 19⟩ (.call ⟨10, 19⟩ (.name ⟨10, 15⟩ "anext" .load) [.name ⟨16, 18⟩ "it" .load] [])

theorem nodes_calls : nodes [aiterCall, anextCall] =
    [.stmt aiterCall,
     .expr (.call ⟨0, 9⟩ (.name ⟨0, 5⟩ "aiter" .load) [.name ⟨6, 8⟩ "it" .load] []),
     .expr (.name ⟨0, 5⟩ "aiter" .load), .expr (.name ⟨6, 8⟩ "it" .load),
     .stmt anextCall,
     .expr (.call ⟨10, 19⟩ (.name ⟨10, 15⟩ "anext" .load) [.name ⟨16, 18⟩ "it" .load] []),
     .expr (.name ⟨10, 15⟩ "anext" .load), .expr (.name ⟨16, 18⟩ "it" .load)] := by
  simp [nodes, aiterCall, anextCall, Node.preorder_eq, Node.children, Node.ofStmt, Node.ofExpr]

theorem not_isImport_of_calls {node : Node} (occurs : Occurs [aiterCall, anextCall] node) :
    ¬ IsImport node := by
  have listed : node ∈ nodes [aiterCall, anextCall] := mem_nodes_iff.2 occurs
  rw [nodes_calls] at listed
  intro imports
  cases imports <;> simp [aiterCall, anextCall] at listed

theorem triggers_calls :
    triggers [aiterCall, anextCall] = [.function "aiter", .function "anext"] := by
  rw [triggers, nodes_calls]
  rfl

theorem triggers_swapped_calls :
    triggers [anextCall, aiterCall] = [.function "anext", .function "aiter"] := by
  simp [triggers, nodes, aiterCall, anextCall, Node.preorder_eq, Node.children, Node.ofStmt,
    Node.ofExpr, Node.triggers, Trigger.ofStmt, Trigger.ofExpr]

/--
The two functions that share a key were added in one version, so their calls can change places.
-/
theorem swapped_calls_same_version :
    ∃ s t, analyze Changelogs.builtin (.fresh .baseline) [aiterCall, anextCall] = (s, none) ∧
      analyze Changelogs.builtin (.fresh .baseline) [anextCall, aiterCall] = (t, none) ∧
      s.version = ⟨10, none⟩ ∧ t.version = ⟨10, none⟩ := by
  have agree : Changelogs.builtin.KeysAgree := by decide +kernel
  have ended := analyze_builtin (.fresh .baseline) [aiterCall, anextCall]
  obtain ⟨t, swapped, same⟩ :=
    version_of_reordered_statements (fun _ => not_isImport_of_calls)
      (.swap anextCall aiterCall []) ended
  have version :
      (after Changelogs.builtin (.fresh .baseline) (triggers [aiterCall, anextCall])).version =
      ⟨10, none⟩ := by
    rw [triggers_calls]
    decide +kernel
  have agrees := statementsAgree_of_keysAgree agree (analyze_eq_ok_iff.1 ended).1
  exact ⟨_, t, ended, swapped, version, (same agrees).trans version⟩

/--
The changelogs of the program with the two functions that share a key added in different versions.
-/
def splitPair : Changelogs :=
  { Changelogs.builtin with
    functions := Changelog.ofEntries
      [("aiter", .addedIn ⟨10, none⟩), ("anext", .addedIn ⟨11, none⟩)] }

/--
The first of two calls under one key decides the version, so that another order gives another
version.
-/
theorem first_call_decides_version :
    (∀ node, Occurs [aiterCall, anextCall] node → ¬ IsImport node) ∧
    [aiterCall, anextCall].Perm [anextCall, aiterCall] ∧
    ∃ s t, analyze splitPair (.fresh .baseline) [aiterCall, anextCall] = (s, none) ∧
      analyze splitPair (.fresh .baseline) [anextCall, aiterCall] = (t, none) ∧
      s.version = ⟨10, none⟩ ∧ t.version = ⟨11, none⟩ := by
  refine ⟨fun _ => not_isImport_of_calls, .swap anextCall aiterCall [], _, _,
    analyze_eq_ok_iff.2 ⟨?_, rfl⟩, analyze_eq_ok_iff.2 ⟨?_, rfl⟩, ?_, ?_⟩
  · rw [triggers_calls]
    decide +kernel
  · rw [triggers_swapped_calls]
    decide +kernel
  · rw [triggers_calls]
    decide +kernel
  · rw [triggers_swapped_calls]
    decide +kernel

end VersionFloor.Analysis
