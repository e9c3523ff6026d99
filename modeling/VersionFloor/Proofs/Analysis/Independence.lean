import VersionFloor.Proofs.Analysis.Report

set_option autoImplicit false

namespace VersionFloor.Analysis

open Script

section TwoRuns

variable {one other : Changelogs} {s t : State}

theorem resolve_congr (same : s.bindings = t.bindings) (name : String) :
    s.resolve name = t.resolve name := by
  rw [State.resolve, State.resolve, same]

theorem usesGenerics_congr (language : one.language.get? = other.language.get?)
    (same : s.bindings = t.bindings) (names : List String) :
    s.usesGenerics one.language names = t.usesGenerics other.language names := by
  simp only [State.usesGenerics, language, resolve_congr same]

theorem lookup?_congr (same : s.bindings = t.bindings) (trigger : Trigger) :
    trigger.lookup? s = trigger.lookup? t := by
  cases trigger with
  | chain name => exact congrArg some (resolve_congr same name)
  | _ => rfl

/-- No entry of the modules is found for the language features. -/
theorem language_of_modules (key : String) (entry : Option Requirement) :
    (entry.map (Finding.mk .modules key)).bind (Finding.inTable? .language) = none := by
  cases entry <;> rfl

theorem language_finding?_congr (language : one.language.get? = other.language.get?)
    (functions : one.functions.get? = other.functions.get?)
    (exceptions : one.exceptions.get? = other.exceptions.get?) (same : s.bindings = t.bindings)
    (trigger : Trigger) :
    (s.finding? one trigger).bind (Finding.inTable? .language) =
      (t.finding? other trigger).bind (Finding.inTable? .language) := by
  cases trigger with
  | feature feature => simp only [State.finding?, language]
  | hint names => simp only [State.finding?, language, usesGenerics_congr language same]
  | function name => simp only [State.finding?, functions]
  | exception name => simp only [State.finding?, exceptions]
  | importName name => simp only [State.finding?, language_of_modules]
  | chain name => simp only [State.finding?, language_of_modules]
  | bind name origin => rfl

theorem modules_finding?_congr (modules : one.modules.get? = other.modules.get?)
    (same : s.bindings = t.bindings) (trigger : Trigger) :
    (s.finding? one trigger).bind (Finding.inTable? .modules) =
      (t.finding? other trigger).bind (Finding.inTable? .modules) := by
  rw [modules_finding?, modules_finding?, lookup?_congr same, modules]

/-- What two runs from equal bindings find for a table is the same if it is so for every trigger. -/
theorem filterMap_findings_congr {part : Finding → Option (String × Requirement)}
    (alike : ∀ (s t : State) (trigger : Trigger), s.bindings = t.bindings →
      (s.finding? one trigger).bind part = (t.finding? other trigger).bind part)
    (same : s.bindings = t.bindings) (triggers : List Trigger) :
    (findings one s triggers).filterMap part = (findings other t triggers).filterMap part := by
  induction triggers generalizing s t with
  | nil => rfl
  | cons trigger rest ih =>
    -- The bindings stay equal, since a trigger binds what it says in any state and under any
    -- changelogs.
    have later : (s.apply one trigger).bindings = (t.apply other trigger).bindings := by
      rw [apply_bindings, apply_bindings, same]
    simp only [findings, List.filterMap_append, Finding.filterMap_toList,
      alike s t trigger same, ih later]

end TwoRuns

/--
Two analyses of a script that end well come to the same bindings. They come to the same language
features, in the same order, if their changelogs of the language, the functions and the exceptions
give the same answers, whatever those of the modules are; and to the same modules if those of the
modules do, whatever the others are.
-/
theorem changelogs_do_not_interfere {one other : Changelogs} {first second : Version}
    {body : List Stmt} {s t : State} (ended : analyze one (.fresh first) body = (s, none))
    (endedToo : analyze other (.fresh second) body = (t, none)) :
    (one.language.get? = other.language.get? → one.functions.get? = other.functions.get? →
      one.exceptions.get? = other.exceptions.get? → s.language = t.language) ∧
    (one.modules.get? = other.modules.get? → s.modules = t.modules) ∧ s.bindings = t.bindings := by
  obtain ⟨-, rfl⟩ := analyze_eq_ok_iff.1 ended
  obtain ⟨-, rfl⟩ := analyze_eq_ok_iff.1 endedToo
  have unbound : (State.fresh first).bindings = (State.fresh second).bindings := rfl
  refine ⟨?_, ?_, ?_⟩
  · intro language functions exceptions
    have found := filterMap_findings_congr
      (fun _ _ trigger same => language_finding?_congr language functions exceptions same trigger)
      unbound (triggers body)
    rw [← State.table_language, ← State.table_language, table_after, table_after, found]
    rfl
  · intro modules
    have found := filterMap_findings_congr
      (fun _ _ trigger same => modules_finding?_congr modules same trigger) unbound (triggers body)
    rw [← State.table_modules, ← State.table_modules, table_after, table_after, found]
    rfl
  · rw [after_bindings, after_bindings, unbound]

def otherModules : Changelogs :=
  { Changelogs.builtin with modules := Changelog.ofEntries [("typing", .addedIn ⟨20, none⟩)] }

/--
The changelogs of the program with a note at every language feature and no functions or exceptions.
-/
def otherLanguage : Changelogs :=
  { Changelogs.builtin with
    language := Changelogs.builtin.language.map fun _ r => r.withNote "seen"
    functions := {}
    exceptions := {} }

theorem triggers_sample : triggers sample =
    [.bind "p" "typing.Literal", .importName "typing", .importName "typing.Literal",
     .importName "os.path",
     .bind "p" "os.path", .bind "d" "collections.OrderedDict", .importName "collections",
     .importName "collections.OrderedDict", .feature .variableHints, .hint ["d", "int"],
     .chain "p.commonpath"] := by
  rw [triggers, ← inPreorder_eq_nodes, inPreorder_sample]
  decide +kernel

/--
Other modules change the modules only, and another language changes the language features only.
-/
theorem sample_under_other_changelogs :
    ∃ s t u, analyze Changelogs.builtin (.fresh .baseline) sample = (s, none) ∧
      analyze otherModules (.fresh ⟨12, none⟩) sample = (t, none) ∧
      analyze otherLanguage (.fresh .baseline) sample = (u, none) ∧
      s.language = t.language ∧ s.modules.names ≠ t.modules.names ∧
      s.modules = u.modules ∧ s.language.entries ≠ u.language.entries ∧
      s.bindings = t.bindings ∧ s.bindings = u.bindings := by
  have ended := analyze_builtin (.fresh .baseline) sample
  have modulesEnded : analyze otherModules (.fresh ⟨12, none⟩) sample =
      (after otherModules (.fresh ⟨12, none⟩) (triggers sample), none) :=
    analyze_eq_ok_iff.2 ⟨by rw [triggers_sample]; decide +kernel, rfl⟩
  have languageEnded : analyze otherLanguage (.fresh .baseline) sample =
      (after otherLanguage (.fresh .baseline) (triggers sample), none) :=
    analyze_eq_ok_iff.2 ⟨by rw [triggers_sample]; decide +kernel, rfl⟩
  obtain ⟨language, -, bindings⟩ := changelogs_do_not_interfere ended modulesEnded
  obtain ⟨-, modules, bindingsToo⟩ := changelogs_do_not_interfere ended languageEnded
  refine ⟨_, _, _, ended, modulesEnded, languageEnded, language rfl rfl rfl, ?_,
    modules (by simp only [otherLanguage]), ?_, bindings, bindingsToo⟩
  · rw [triggers_sample]
    decide +kernel
  · rw [triggers_sample]
    decide +kernel

end VersionFloor.Analysis
