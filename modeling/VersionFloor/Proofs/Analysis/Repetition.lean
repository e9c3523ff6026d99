import VersionFloor.Proofs.Analysis.Report

set_option autoImplicit false

namespace VersionFloor.Analysis

open Script

variable {changelogs : Changelogs}

/-- From the same bindings triggers find the same. -/
theorem findings_congr {s t : State} (same : s.bindings = t.bindings) (triggers : List Trigger) :
    findings changelogs s triggers = findings changelogs t triggers := by
  induction triggers generalizing s t with
  | nil => rfl
  | cons trigger rest ih =>
    have found : s.finding? changelogs trigger = t.finding? changelogs trigger :=
      finding?_congr (congrArg Table.get? same) trigger
    have later : (s.apply changelogs trigger).bindings = (t.apply changelogs trigger).bindings := by
      rw [apply_bindings, apply_bindings, same]
    rw [findings, findings, found, ih later]

/-- What triggers find is there after them. -/
theorem heldBy_after {s : State} {triggers : List Trigger} {finding : Finding}
    (found : finding ∈ findings changelogs s triggers) :
    finding.HeldBy (after changelogs s triggers) := by
  have offered : (finding.key, finding.requirement) ∈
      (findings changelogs s triggers).filterMap (Finding.inTable? finding.subject) :=
    List.mem_filterMap.2 ⟨finding, found, if_pos rfl⟩
  rw [Finding.HeldBy, table_after, Table.mem_names_collect]
  exact Or.inr (List.mem_map.2 ⟨_, offered, rfl⟩)

/-- Triggers that find nothing new change the bindings only. -/
theorem after_of_heldBy {s : State} {triggers : List Trigger}
    (held : ∀ finding ∈ findings changelogs s triggers, finding.HeldBy s) :
    after changelogs s triggers =
      { s with bindings := s.bindings.insertAll (triggers.filterMap Trigger.binding?) } := by
  induction triggers generalizing s with
  | nil => rfl
  | cons trigger rest ih =>
    rw [findings, List.forall_mem_append] at held
    obtain ⟨here, later⟩ := held
    rw [after_cons]
    rcases s.apply_cases changelogs trigger with
      ⟨finding, found, free, applied⟩ | ⟨binding, -, named, applied⟩ | ⟨-, free, applied⟩
    · have taken : finding.HeldBy s := here finding (by rw [found]; exact List.mem_singleton_self _)
      rw [State.record_of_heldBy taken] at applied
      rw [applied] at later ⊢
      rw [ih later, List.filterMap_cons_none free]
    · rw [applied] at later ⊢
      -- Binding a name leaves both tables alone, so what was held still is.
      have still : ∀ finding ∈ findings changelogs (s.bound binding) rest,
          finding.HeldBy (s.bound binding) := by
        intro finding found
        obtain ⟨subject, key, r⟩ := finding
        cases subject <;> exact later _ found
      rw [ih still, List.filterMap_cons_some named]
      rfl
    · rw [applied] at later ⊢
      rw [ih later, List.filterMap_cons_none free]

/-- Where triggers leave the bindings as they were, applying them again changes nothing. -/
theorem after_after {s : State} {triggers : List Trigger}
    (settled : s.bindings.insertAll (triggers.filterMap Trigger.binding?) = s.bindings) :
    after changelogs (after changelogs s triggers) triggers = after changelogs s triggers := by
  have same : (after changelogs s triggers).bindings = s.bindings :=
    (after_bindings s triggers).trans settled
  have held : ∀ finding ∈ findings changelogs (after changelogs s triggers) triggers,
      finding.HeldBy (after changelogs s triggers) := by
    rw [findings_congr same]
    intro finding found
    exact heldBy_after found
  rw [after_of_heldBy held, same, settled, ← same]

theorem bindings_settled (s : State) (triggers : List Trigger) :
    (after changelogs s triggers).bindings.insertAll (triggers.filterMap Trigger.binding?) =
      (after changelogs s triggers).bindings := by
  rw [after_bindings, Table.insertAll_insertAll]

/-- A script without imports binds nothing. -/
theorem binding?_triggers_eq_nil {body : List Stmt}
    (plain : ∀ node, Occurs body node → ¬ IsImport node) :
    (triggers body).filterMap Trigger.binding? = [] := by
  rw [List.filterMap_eq_nil_iff]
  intro trigger held
  obtain ⟨node, listed, said⟩ := List.mem_flatMap.1 held
  exact (Says.of_mem said).binding?_eq_none (plain node (mem_nodes_iff.1 listed))

/--
A script that was analysed from some state can be analysed again and again. The second analysis
comes to a state that the third and all later ones leave as it is, and if the script has no import,
the first one does.
-/
theorem analyze_settles_after_two {s first : State} {body : List Stmt}
    (ended : analyze changelogs s body = (first, none)) :
    ∃ second, analyze changelogs first body = (second, none) ∧
      analyze changelogs second body = (second, none) ∧
      ((∀ node, Occurs body node → ¬ IsImport node) → second = first) := by
  obtain ⟨complete, rfl⟩ := analyze_eq_ok_iff.1 ended
  refine ⟨_, analyze_eq_ok_iff.2 ⟨complete, rfl⟩, analyze_eq_ok_iff.2 ⟨complete, ?_⟩, ?_⟩
  · exact after_after (bindings_settled s (triggers body))
  · intro plain
    apply after_after
    rw [binding?_triggers_eq_nil plain, Table.insertAll_nil]

/-- `p.commonpath`. -/
def lateUse : Stmt :=
  .expr ⟨0, 12⟩ (.attribute ⟨0, 12⟩ (.name ⟨0, 1⟩ "p" .load) "commonpath" .load)

/-- The use of `p` and, on a line of its own, `import os.path as p`. -/
def lateImport : List Stmt :=
  [lateUse, .importModules ⟨13, 32⟩ [⟨⟨20, 32⟩, "os.path", some "p"⟩]]

theorem nodes_lateUse : nodes [lateUse] =
    [.stmt lateUse, .expr (.attribute ⟨0, 12⟩ (.name ⟨0, 1⟩ "p" .load) "commonpath" .load),
     .expr (.name ⟨0, 1⟩ "p" .load)] := by
  simp [nodes, lateUse, Node.preorder_eq, Node.children, Node.ofStmt, Node.ofExpr]

theorem triggers_lateImport : triggers lateImport =
    [.chain "p.commonpath", .importName "os.path", .bind "p" "os.path"] := by
  have listed : nodes lateImport =
      nodes [lateUse] ++ [.stmt (.importModules ⟨13, 32⟩ [⟨⟨20, 32⟩, "os.path", some "p"⟩])] := by
    simp [nodes, lateImport, Node.preorder_eq, Node.children, Node.ofStmt]
  rw [triggers, listed, nodes_lateUse]
  decide +kernel

theorem not_isImport_of_lateUse {node : Node} (occurs : Occurs [lateUse] node) :
    ¬ IsImport node := by
  have listed : node ∈ nodes [lateUse] := mem_nodes_iff.2 occurs
  rw [nodes_lateUse] at listed
  intro imports
  cases imports <;> simp [lateUse] at listed

/--
Only the second analysis knows what the name stands for that is used before the import of it.
Without the import the first one is enough.
-/
theorem lateImport_settles :
    (∃ first second, analyze Changelogs.builtin (.fresh .baseline) lateImport = (first, none) ∧
      analyze Changelogs.builtin first lateImport = (second, none) ∧
      analyze Changelogs.builtin second lateImport = (second, none) ∧
      first.modules.names = [] ∧ second.modules.names = ["os.path.commonpath"]) ∧
    ∃ first, analyze Changelogs.builtin (.fresh .baseline) [lateUse] = (first, none) ∧
      analyze Changelogs.builtin first [lateUse] = (first, none) := by
  constructor
  · have ended := analyze_builtin (.fresh .baseline) lateImport
    obtain ⟨second, again, settled, -⟩ := analyze_settles_after_two ended
    refine ⟨_, second, ended, again, settled, ?_, ?_⟩
    · rw [triggers_lateImport]
      decide +kernel
    · rw [analyze_builtin] at again
      rw [← (Prod.mk.inj again).1, triggers_lateImport]
      decide +kernel
  · have ended := analyze_builtin (.fresh .baseline) [lateUse]
    obtain ⟨second, again, -, plain⟩ := analyze_settles_after_two ended
    have same := plain fun _ => not_isImport_of_lateUse
    exact ⟨_, ended, same ▸ again⟩

end VersionFloor.Analysis
