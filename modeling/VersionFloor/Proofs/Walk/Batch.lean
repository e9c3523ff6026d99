import Mathlib.Data.List.Perm.Basic
import VersionFloor.Proofs.Except
import VersionFloor.Walk

set_option autoImplicit false

namespace VersionFloor

theorem Report.path_of_ofFile {changelogs : Changelogs} {baseline : Version} {tree : FileTree}
    {path : String} {report : Report}
    (analyzed : Report.ofFile changelogs baseline tree path = .ok report) : report.path = path := by
  unfold Report.ofFile Report.ofScript at analyzed
  obtain ⟨text, -, analyzed⟩ := exists_of_bind_eq_ok analyzed
  obtain ⟨body, -, analyzed⟩ := exists_of_bind_eq_ok analyzed
  split at analyzed
  · cases analyzed
    rfl
  · cases analyzed

namespace Batch

/-- What is noted of a script that cannot be analysed. -/
def failure? (script : String) : Except Error Report → Option Failure
  | .ok _ => none
  | .error error => some ⟨script, error.message⟩

def critical? : Except Error Report → Option Error
  | .ok _ => none
  | .error error => if error.isCritical then some error else none

/-- The failures of what could not be looked at. -/
def recorded (errors : List (String × Error)) : List Failure :=
  errors.map fun entry => ⟨entry.1, entry.2.message⟩

theorem length_recorded (errors : List (String × Error)) :
    (recorded errors).length = errors.length :=
  List.length_map _

theorem critical?_eq_none_iff {outcome : Except Error Report} :
    critical? outcome = none ↔ ∀ error, outcome = .error error → error.isCritical = false := by
  cases outcome with
  | ok report => simp [critical?]
  | error error => simp [critical?]

theorem critical?_eq_some_iff {outcome : Except Error Report} {error : Error} :
    critical? outcome = some error ↔ outcome = .error error ∧ error.isCritical = true := by
  cases outcome with
  | ok report => simp [critical?]
  | error other =>
    simp only [critical?, Option.ite_none_right_eq_some, Option.some.injEq, Except.error.injEq]
    constructor
    · rintro ⟨grave, rfl⟩
      exact ⟨rfl, grave⟩
    · rintro ⟨rfl, grave⟩
      exact ⟨grave, rfl⟩

theorem foldl_skip (errors : List (String × Error)) (results : Results) :
    errors.foldl (fun results entry => skip results entry.1 entry.2) results =
      { results with failures := results.failures ++ recorded errors } := by
  induction errors generalizing results with
  | nil => rw [recorded, List.map_nil, List.append_nil, List.foldl_nil]
  | cons entry errors ih =>
    rw [List.foldl_cons, ih, skip, recorded, recorded, List.map_cons, List.append_assoc]
    rfl

variable {analyze : String → Except Error Report}

def addAll (analyze : String → Except Error Report) (batch : Batch) (scripts : List String) :
    Batch :=
  scripts.foldl (fun batch script => batch.add script (analyze script)) batch

theorem addAll_cons (batch : Batch) (script : String) (scripts : List String) :
    addAll analyze batch (script :: scripts) =
      addAll analyze (batch.add script (analyze script)) scripts := rfl

/-- Nothing is added to a run that has ended. -/
theorem addAll_of_stopped {batch : Batch} {error : Error} (ended : batch.stopped = some error)
    (scripts : List String) :
    addAll analyze batch scripts = batch := by
  induction scripts with
  | nil => rfl
  | cons script scripts ih =>
    have unchanged : batch.add script (analyze script) = batch := by simp only [add, ended]
    rw [addAll_cons, unchanged, ih]

/-- The results with what came of scripts that did not end the run. -/
def gathered (analyze : String → Except Error Report) (results : Results) (scripts : List String) :
    Results where
  reports := results.reports ++ scripts.filterMap fun script => (analyze script).toOption
  failures := results.failures ++ scripts.filterMap fun script => failure? script (analyze script)

theorem gathered_nil (results : Results) : gathered analyze results [] = results := by
  simp only [gathered, List.filterMap_nil, List.append_nil]

theorem gathered_cons_of_ok {script : String} {report : Report}
    (analyzed : analyze script = .ok report) (results : Results) (scripts : List String) :
    gathered analyze results (script :: scripts) =
      gathered analyze { results with reports := results.reports ++ [report] } scripts := by
  simp only [gathered, List.filterMap_cons, analyzed, Except.toOption, failure?, List.append_assoc,
    List.singleton_append]

theorem gathered_cons_of_error {script : String} {error : Error}
    (failed : analyze script = .error error) (results : Results) (scripts : List String) :
    gathered analyze results (script :: scripts) =
      gathered analyze (skip results script error) scripts := by
  simp only [gathered, skip, List.filterMap_cons, failed, Except.toOption, failure?,
    List.append_assoc, List.singleton_append]

/-- A run under way ends with the first critical error, or has gathered what came of all scripts. -/
theorem outcome_addAll {batch : Batch} (running : batch.stopped = none) (scripts : List String) :
    (addAll analyze batch scripts).outcome =
      (scripts.findSome? fun script => critical? (analyze script)).elim
        (.ok (gathered analyze batch.results scripts)) .error := by
  induction scripts generalizing batch with
  | nil =>
    rw [gathered_nil]
    change batch.outcome = .ok batch.results
    rw [outcome, running]
  | cons script scripts ih =>
    rw [addAll_cons, List.findSome?_cons]
    cases analyzed : analyze script with
    | ok report =>
      rw [gathered_cons_of_ok analyzed]
      simp only [add, running, critical?]
      exact ih rfl
    | error error =>
      by_cases grave : error.isCritical = true
      -- The fold still goes over the scripts that are left, but adds nothing.
      · have ended : (batch.add script (.error error)).stopped = some error := by
          simp only [add, running, grave, if_true]
        rw [addAll_of_stopped ended, outcome, ended, critical?, if_pos grave]
        rfl
      · rw [gathered_cons_of_error analyzed]
        simp only [add, running, critical?, grave]
        exact ih rfl

/-- What the run starts with: the failures of what could not be looked at. -/
def start (errors : List (String × Error)) : Results where
  failures := recorded errors

theorem foldl_skip_start (errors : List (String × Error)) :
    errors.foldl (fun results entry => skip results entry.1 entry.2) {} = start errors := by
  rw [foldl_skip, List.nil_append]
  rfl

theorem outcome_of_several {discovery : Discovery} (several : discovery.scripts.length ≠ 1) :
    (ofDiscovery analyze discovery).outcome =
      (discovery.scripts.findSome? fun script => critical? (analyze script)).elim
        (.ok (gathered analyze (start discovery.errors) discovery.scripts)) .error := by
  have run : ofDiscovery analyze discovery =
      addAll analyze { results := start discovery.errors } discovery.scripts := by
    rw [← foldl_skip_start]
    unfold ofDiscovery
    split
    · next only => exact absurd (congrArg List.length only) several
    · rfl
  rw [run, outcome_addAll rfl]

theorem outcome_of_single {discovery : Discovery} {script : String}
    (only : discovery.scripts = [script]) :
    (ofDiscovery analyze discovery).outcome =
      (analyze script).map fun report => ⟨[report], recorded discovery.errors⟩ := by
  unfold ofDiscovery
  rw [only]
  cases analyzed : analyze script with
  | ok report =>
    simp only [analyzed, foldl_skip_start]
    rfl
  | error error =>
    simp only [analyzed]
    rfl

/-- The error is critical, and no script before its own has a critical one. -/
def FirstCritical (analyze : String → Except Error Report) (scripts : List String) (error : Error) :
    Prop :=
  ∃ before script after, scripts = before ++ script :: after ∧
    analyze script = .error error ∧ error.isCritical = true ∧
    ∀ earlier ∈ before, ∀ other, analyze earlier = .error other → other.isCritical = false

theorem findSome?_critical?_eq_some_iff {scripts : List String} {error : Error} :
    (scripts.findSome? fun script => critical? (analyze script)) = some error ↔
      FirstCritical analyze scripts error := by
  simp only [List.findSome?_eq_some_iff, critical?_eq_some_iff, critical?_eq_none_iff,
    FirstCritical, and_assoc]

theorem findSome?_critical?_eq_none_iff {scripts : List String} :
    (scripts.findSome? fun script => critical? (analyze script)) = none ↔
      ∀ script ∈ scripts, ∀ error, analyze script = .error error → error.isCritical = false := by
  simp only [List.findSome?_eq_none_iff, critical?_eq_none_iff]

/-- Each script leaves either a report or a failure, under its own path. -/
theorem paths_perm (named : ∀ script report, analyze script = .ok report → report.path = script)
    (scripts : List String) :
    ((scripts.filterMap fun script => (analyze script).toOption).map (·.path) ++
      (scripts.filterMap fun script => failure? script (analyze script)).map (·.path)).Perm
        scripts := by
  induction scripts with
  | nil => exact .refl []
  | cons script scripts ih =>
    cases analyzed : analyze script with
    | ok report =>
      simp only [List.filterMap_cons, analyzed, Except.toOption, failure?, List.map_cons,
        List.cons_append, named script report analyzed]
      exact ih.cons script
    | error error =>
      simp only [List.filterMap_cons, analyzed, Except.toOption, failure?, List.map_cons]
      exact List.perm_middle.trans (ih.cons script)

/--
A run over scripts, of which there is not just one, succeeds if and only if no script has a critical
error. It then has the reports of the scripts that can be analysed, in order and each as it is for
the script alone, and the failures of what could not be looked at and after them those of the other
scripts, in order, so that each script is in one of the two once. Else the run fails with the first
critical error. A run over a single script fails with the error of that script, whatever it is, and
only then.
-/
theorem batch_loses_nothing (changelogs : Changelogs) (baseline : Version) (tree : FileTree)
    (discovery : Discovery) :
    let analyze := Report.ofFile changelogs baseline tree
    let outcome := (ofDiscovery analyze discovery).outcome
    (discovery.scripts.length ≠ 1 →
      ((∃ results, outcome = .ok results) ↔
        ∀ script ∈ discovery.scripts, ∀ error, analyze script = .error error →
          error.isCritical = false) ∧
      (∀ results, outcome = .ok results →
        results.reports = discovery.scripts.filterMap (fun script => (analyze script).toOption) ∧
        results.failures = recorded discovery.errors ++
          discovery.scripts.filterMap (fun script => failure? script (analyze script)) ∧
        (results.reports.map (·.path) ++
          (results.failures.drop discovery.errors.length).map (·.path)).Perm
          discovery.scripts) ∧
      ∀ error, outcome = .error error ↔ FirstCritical analyze discovery.scripts error) ∧
    ∀ script, discovery.scripts = [script] →
      (∀ error, outcome = .error error ↔ analyze script = .error error) ∧
      ∀ report, analyze script = .ok report →
        outcome = .ok ⟨[report], recorded discovery.errors⟩ := by
  intro analyze outcome
  refine ⟨fun several => ?_, fun script only => ?_⟩
  · have ended : outcome =
        (discovery.scripts.findSome? fun script => critical? (analyze script)).elim
        (.ok (gathered analyze (start discovery.errors) discovery.scripts)) .error :=
          outcome_of_several several
    simp only [← findSome?_critical?_eq_none_iff, ← findSome?_critical?_eq_some_iff, ended]
    cases (discovery.scripts.findSome? fun script => critical? (analyze script)) with
    | some error => simp
    | none =>
      refine ⟨by simp, ?_, by simp⟩
      rintro results ⟨⟩
      refine ⟨List.nil_append _, rfl, ?_⟩
      simp only [gathered, start, List.nil_append,
        List.drop_left' (length_recorded discovery.errors)]
      exact paths_perm (fun _ _ => Report.path_of_ofFile) discovery.scripts
  · have ended : outcome = (analyze script).map fun report =>
        ⟨[report], recorded discovery.errors⟩ :=
      outcome_of_single only
    rw [ended]
    cases analyze script with
    | ok report => exact ⟨by simp [Except.map], by rintro _ ⟨⟩; rfl⟩
    | error error => exact ⟨by simp [Except.map], by rintro _ ⟨⟩⟩

end Batch

end VersionFloor
