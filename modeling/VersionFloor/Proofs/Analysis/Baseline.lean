import VersionFloor.Proofs.Analysis.Import
import VersionFloor.Proofs.Version.Order
import VersionFloor.Report

set_option autoImplicit false

namespace VersionFloor.Analysis

open Script

namespace State

def atLeast (floor : Version) (s : State) : State :=
  { s with version := max floor s.version }

theorem fresh_eq_atLeast (baseline : Version) :
    fresh baseline = (fresh .baseline).atLeast baseline := by
  rw [atLeast, fresh, fresh, max_eq_left (Version.baseline_le baseline)]

theorem raised_max (floor version : Version) (r : Requirement) :
    raised (max floor version) r = max floor (raised version r) := by
  rw [raised, raised]
  cases r.added with
  | none => rfl
  | some added => exact max_assoc floor version added

theorem table_atLeast (floor : Version) (s : State) (subject : Subject) :
    (s.atLeast floor).table subject = s.table subject := by
  cases subject <;> rfl

theorem heldBy_atLeast_iff {floor : Version} {s : State} {finding : Finding} :
    finding.HeldBy (s.atLeast floor) ↔ finding.HeldBy s := by
  rw [Finding.HeldBy, table_atLeast, Finding.HeldBy]

theorem record_atLeast (floor : Version) (s : State) (finding : Finding) :
    (s.atLeast floor).record finding = (s.record finding).atLeast floor := by
  by_cases held : finding.HeldBy s
  · rw [record_of_heldBy held, record_of_heldBy (heldBy_atLeast_iff.2 held)]
  · rw [record_of_new held, record_of_new (mt heldBy_atLeast_iff.1 held), table_atLeast]
    simp only [atLeast, raised_max]
    cases finding.subject <;> rfl

end State

variable {changelogs : Changelogs}

/-- The floor passes through a trigger. -/
theorem apply_atLeast (floor : Version) (s : State) (trigger : Trigger) :
    (s.atLeast floor).apply changelogs trigger = (s.apply changelogs trigger).atLeast floor := by
  have found : (s.atLeast floor).finding? changelogs trigger = s.finding? changelogs trigger :=
    finding?_congr rfl trigger
  cases named : trigger.binding? with
  | none =>
    rw [State.apply_eq_record _ _ named, State.apply_eq_record _ _ named, found]
    cases s.finding? changelogs trigger with
    | none => rfl
    | some finding => exact State.record_atLeast floor s finding
  | some binding =>
    cases trigger with
    | bind name origin => rfl
    | _ => cases named

/-- The floor passes through a run, which ends with the same missing entry or none. -/
theorem run_atLeast (floor : Version) (s : State) (triggers : List Trigger) :
    run changelogs (s.atLeast floor) triggers =
      ((run changelogs s triggers).1.atLeast floor, (run changelogs s triggers).2) := by
  induction triggers generalizing s with
  | nil => rfl
  | cons trigger rest ih =>
    rw [run, run]
    cases trigger.missing? changelogs.language with
    | none =>
      simp only [apply_atLeast]
      exact ih (s.apply changelogs trigger)
    | some feature => rfl

theorem analyze_fresh_eq (baseline : Version) (body : List Stmt) :
    analyze changelogs (.fresh baseline) body =
      ((analyze changelogs (.fresh .baseline) body).1.atLeast baseline,
        (analyze changelogs (.fresh .baseline) body).2) := by
  rw [analyze_eq_run, analyze_eq_run, State.fresh_eq_atLeast, run_atLeast]

/-- A report with a baseline is the one from 3.0 with its version raised, or the same error. -/
theorem ofScript_eq_map (baseline : Version) (path text : String) :
    Report.ofScript changelogs baseline path text =
      (Report.ofScript changelogs .baseline path text).map fun report =>
        { report with version := max baseline report.version } := by
  unfold Report.ofScript
  cases Script.read path text with
  | error fault => rfl
  | ok body =>
    simp only [bind, Except.bind, analyze_fresh_eq baseline body]
    obtain ⟨s, _ | feature⟩ := analyze changelogs (.fresh .baseline) body
    · rfl
    · rfl

/--
With any baseline an analysis ends as it does with 3.0: well, or at the same missing entry. It comes
to the same requirements in the same order and to the same bindings, and to the later of the
baseline and the version that it comes to from 3.0. So the report of a script is the one from 3.0
with its version raised, or the same error.
-/
theorem baseline_is_only_floor (changelogs : Changelogs) (baseline : Version) (body : List Stmt) :
    let lowest := analyze changelogs (.fresh .baseline) body
    let floored := analyze changelogs (.fresh baseline) body
    floored.2 = lowest.2 ∧ floored.1.language = lowest.1.language ∧
      floored.1.modules = lowest.1.modules ∧
      floored.1.bindings = lowest.1.bindings ∧ floored.1.version = max baseline lowest.1.version ∧
      ∀ path text, Report.ofScript changelogs baseline path text =
        (Report.ofScript changelogs .baseline path text).map fun report =>
          { report with version := max baseline report.version } := by
  intro lowest floored
  have raised : floored = (lowest.1.atLeast baseline, lowest.2) := analyze_fresh_eq baseline body
  rw [raised]
  exact ⟨rfl, rfl, rfl, rfl, rfl, ofScript_eq_map baseline⟩

end VersionFloor.Analysis
