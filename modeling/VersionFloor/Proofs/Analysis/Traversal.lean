import Mathlib.Data.List.Basic
import VersionFloor.Analysis.State

set_option autoImplicit false

namespace VersionFloor.Analysis

open Script

namespace Outcome

@[simp] theorem andThen_none (s : State) (next : State → Outcome) :
    Outcome.andThen (s, none) next = next s := rfl

@[simp] theorem andThen_some (s : State) (feature : Feature) (next : State → Outcome) :
    Outcome.andThen (s, some feature) next = (s, some feature) := rfl

@[simp] theorem andThen_pure (outcome : Outcome) :
    (outcome.andThen fun s => (s, none)) = outcome := by
  obtain ⟨s, _ | feature⟩ := outcome <;> rfl

theorem andThen_assoc (outcome : Outcome) (first second : State → Outcome) :
    (outcome.andThen first).andThen second = outcome.andThen fun s => (first s).andThen second := by
  obtain ⟨s, _ | feature⟩ := outcome <;> rfl

/-- A loop that stops at the first missing entry goes on from what came before it. -/
theorem foldl_andThen {α : Type} (step : α → State → Outcome) (items : List α) (outcome : Outcome) :
    items.foldl (fun outcome item => outcome.andThen (step item)) outcome =
      outcome.andThen fun s =>
        items.foldl (fun outcome item => outcome.andThen (step item)) (s, none) := by
  induction items generalizing outcome with
  | nil => exact (andThen_pure outcome).symm
  | cons item rest ih =>
    simp only [List.foldl_cons, andThen_none]
    rw [ih, andThen_assoc]
    congr 1
    funext s
    exact (ih (step item s)).symm

end Outcome

variable {changelogs : Changelogs}

theorem run_append (s : State) (first second : List Trigger) :
    run changelogs s (first ++ second) =
      (run changelogs s first).andThen fun s => run changelogs s second := by
  induction first generalizing s with
  | nil => rfl
  | cons trigger rest ih =>
    simp only [List.cons_append, run]
    cases trigger.missing? changelogs.language with
    | none => exact ih (s.apply changelogs trigger)
    | some feature => rfl

/-- Checks nodes one after the other, up to the first for which an entry is missing. -/
def checkAll (changelogs : Changelogs) : State → List Node → Outcome
  | s, [] => (s, none)
  | s, node :: rest => (check changelogs s node).andThen fun s => checkAll changelogs s rest

theorem checkAll_append (s : State) (first second : List Node) :
    checkAll changelogs s (first ++ second) =
      (checkAll changelogs s first).andThen fun s => checkAll changelogs s second := by
  induction first generalizing s with
  | nil => rfl
  | cons node rest ih =>
    simp only [List.cons_append, checkAll, Outcome.andThen_assoc]
    congr 1
    funext s
    exact ih s

/-- Checking nodes runs the triggers of all of them. -/
theorem checkAll_eq_run (s : State) (nodes : List Node) :
    checkAll changelogs s nodes = run changelogs s (nodes.flatMap Node.triggers) := by
  induction nodes generalizing s with
  | nil => rfl
  | cons node rest ih =>
    rw [checkAll, List.flatMap_cons, run_append]
    congr 1
    funext s
    exact ih s

/-- The node and all nodes below it, each before those below it. -/
def Node.preorder (node : Node) : List Node :=
  node :: node.children.attach.flatMap fun ⟨child, _⟩ => preorder child
termination_by sizeOf node
decreasing_by exact Node.allBelow_children node child ‹_›

theorem Node.preorder_eq (node : Node) :
    node.preorder = node :: node.children.flatMap preorder := by
  rw [preorder]
  simp only [List.flatMap_subtype, List.unattach_attach]

theorem visit_eq (s : State) (node : Node) :
    visit changelogs s node =
      node.children.foldl (fun outcome child => outcome.andThen fun s => visit changelogs s child)
        (check changelogs s node) := by
  rw [visit]
  simp only [List.foldl_subtype, List.unattach_attach]

/-- A loop of checks is one check of all the lists of nodes joined. -/
theorem foldl_checkAll {α : Type} (parts : α → List Node) (items : List α) (s : State) :
    items.foldl (fun (outcome : Outcome) item =>
        outcome.andThen fun s => checkAll changelogs s (parts item)) (s, none) =
      checkAll changelogs s (items.flatMap parts) := by
  induction items generalizing s with
  | nil => rfl
  | cons item rest ih =>
    rw [List.foldl_cons, Outcome.andThen_none, Outcome.foldl_andThen, List.flatMap_cons,
      checkAll_append]
    congr 1
    funext s
    exact ih s

/-- Visiting a node checks the nodes at and below it in their order. -/
theorem visit_eq_checkAll (s : State) (node : Node) :
    visit changelogs s node = checkAll changelogs s node.preorder := by
  induction node using Node.preorder.induct generalizing s with
  | case1 node ih =>
    rw [visit_eq, Outcome.foldl_andThen, Node.preorder_eq, checkAll]
    congr 1
    funext s
    rw [← foldl_checkAll]
    apply List.foldl_ext
    intro outcome child below
    congr 1
    funext s
    exact ih child below s

theorem visit_eq_run (s : State) (node : Node) :
    visit changelogs s node = run changelogs s (node.preorder.flatMap Node.triggers) :=
  (visit_eq_checkAll s node).trans (checkAll_eq_run s node.preorder)

def nodes (body : List Stmt) : List Node :=
  (body.map Node.stmt).flatMap Node.preorder

def triggers (body : List Stmt) : List Trigger :=
  (nodes body).flatMap Node.triggers

theorem analyze_eq_checkAll (s : State) (body : List Stmt) :
    analyze changelogs s body = checkAll changelogs s (nodes body) := by
  rw [nodes, List.flatMap_map, ← foldl_checkAll, analyze]
  simp only [visit_eq_checkAll]

theorem analyze_eq_run (s : State) (body : List Stmt) :
    analyze changelogs s body = run changelogs s (triggers body) :=
  (analyze_eq_checkAll s body).trans (checkAll_eq_run s (nodes body))

end VersionFloor.Analysis
