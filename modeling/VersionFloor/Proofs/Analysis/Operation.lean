import Mathlib.Logic.Relation
import VersionFloor.Proofs.Analysis.Finding

set_option autoImplicit false

namespace VersionFloor.Analysis

open Script

inductive Operation
  /-- A statement, an expression or any other node is visited. -/
  | visit (node : Node)
  | analyze (body : List Stmt)
  | add (subject : Subject) (key : String) (requirement : Option Requirement)

/-- The state after an operation; one that fails leaves the state that it has come to. -/
def Operation.perform (changelogs : Changelogs) (s : State) : Operation → State
  | visit node => (Analysis.visit changelogs s node).1
  | analyze body => (Analysis.analyze changelogs s body).1
  | add subject key requirement => s.add subject key requirement

def performAll (changelogs : Changelogs) (s : State) (operations : List Operation) : State :=
  operations.foldl (Operation.perform changelogs) s

inductive Changes (s : State) : State → Prop
  | record (finding : Finding) : Changes s (s.record finding)
  | bind (binding : String × String) : Changes s (s.bound binding)

/-- A state comes from another by changes one after the other. -/
abbrev Leads : State → State → Prop :=
  Relation.ReflTransGen Changes

variable {changelogs : Changelogs}

theorem leads_apply (s : State) (trigger : Trigger) : Leads s (s.apply changelogs trigger) := by
  rcases s.apply_cases changelogs trigger with
    ⟨finding, -, -, applied⟩ | ⟨binding, -, -, applied⟩ | ⟨-, -, applied⟩
  · rw [applied]
    exact .single (.record finding)
  · rw [applied]
    exact .single (.bind binding)
  · rw [applied]

theorem leads_after (s : State) (triggers : List Trigger) :
    Leads s (after changelogs s triggers) := by
  induction triggers generalizing s with
  | nil => exact .refl
  | cons trigger rest ih => exact (leads_apply s trigger).trans (ih (s.apply changelogs trigger))

/-- The state of a run is reached by changes also where an entry is missing halfway. -/
theorem leads_run (s : State) (triggers : List Trigger) :
    Leads s (run changelogs s triggers).1 := by
  rw [run_eq]
  exact leads_after s (beforeMissing changelogs.language triggers)

theorem leads_perform (s : State) (operation : Operation) :
    Leads s (operation.perform changelogs s) := by
  cases operation with
  | visit node =>
    rw [Operation.perform, visit_eq_run]
    exact leads_run s _
  | analyze body =>
    rw [Operation.perform, analyze_eq_run]
    exact leads_run s _
  | add subject key requirement =>
    cases requirement with
    | none => exact .refl
    | some r => exact .single (.record ⟨subject, key, r⟩)

theorem leads_performAll (s : State) (operations : List Operation) :
    Leads s (performAll changelogs s operations) := by
  induction operations generalizing s with
  | nil => exact .refl
  | cons operation rest ih =>
    exact (leads_perform s operation).trans (ih (operation.perform changelogs s))

end VersionFloor.Analysis
