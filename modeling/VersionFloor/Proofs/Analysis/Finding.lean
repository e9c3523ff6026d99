import Mathlib.Data.List.TakeWhile
import VersionFloor.Proofs.Analysis.Traversal
import VersionFloor.Proofs.Table

set_option autoImplicit false

namespace VersionFloor.Analysis

open Script

/-- An entry of a changelog and the key it is reported under. -/
structure Finding where
  subject : Subject
  key : String
  requirement : Requirement

namespace Finding

def inTable? (subject : Subject) (finding : Finding) : Option (String × Requirement) :=
  if finding.subject = subject then some (finding.key, finding.requirement) else none

/-- A requirement is there already under the key of the finding. -/
def HeldBy (s : State) (finding : Finding) : Prop :=
  finding.key ∈ (s.table finding.subject).names

theorem filterMap_toList (part : Finding → Option (String × Requirement))
    (found : Option Finding) : found.toList.filterMap part = (found.bind part).toList := by
  cases found with
  | none => rfl
  | some finding =>
    rw [Option.toList_some, List.filterMap_cons, Option.bind_some]
    cases part finding <;> rfl

end Finding

/-- The local name that a trigger binds, with its origin. -/
def Trigger.binding? : Trigger → Option (String × String)
  | .bind name origin => some (name, origin)
  | _ => none

namespace State

@[simp] theorem table_language (s : State) : s.table .language = s.language := rfl

@[simp] theorem table_modules (s : State) : s.table .modules = s.modules := rfl

theorem table_setTable (s : State) (subject other : Subject) (table : Table Requirement) :
    (s.setTable subject table).table other = if subject = other then table else s.table other := by
  cases subject <;> cases other <;> rfl

theorem version_setTable (s : State) (subject : Subject) (table : Table Requirement) :
    (s.setTable subject table).version = s.version := by
  cases subject <;> rfl

theorem bindings_setTable (s : State) (subject : Subject) (table : Table Requirement) :
    (s.setTable subject table).bindings = s.bindings := by
  cases subject <;> rfl

def record (s : State) (finding : Finding) : State :=
  s.add finding.subject finding.key (some finding.requirement)

theorem record_of_heldBy {s : State} {finding : Finding} (held : finding.HeldBy s) :
    s.record finding = s :=
  if_pos ((Table.contains_iff _ _).2 held)

theorem record_of_new {s : State} {finding : Finding} (new : ¬ finding.HeldBy s) :
    s.record finding =
      { s with version := raised s.version finding.requirement }.setTable finding.subject
        ((s.table finding.subject).insert finding.key finding.requirement) :=
  if_neg fun taken => new ((Table.contains_iff _ _).1 taken)

def finding? (changelogs : Changelogs) (s : State) : Trigger → Option Finding
  | .feature feature => (changelogs.language.get? feature.key).map (.mk .language feature.key)
  | .hint names =>
    if s.usesGenerics changelogs.language names then
      (changelogs.language.get? Feature.genericHints.key).map
        (.mk .language Feature.genericHints.key)
    else none
  | .function name => (changelogs.functions.get? name).map (.mk .language (functionKey name))
  | .exception name => (changelogs.exceptions.get? name).map (.mk .language name)
  | .importName name => (changelogs.modules.get? name).map (.mk .modules name)
  | .chain name => (changelogs.modules.get? (s.resolve name)).map (.mk .modules (s.resolve name))
  | .bind _ _ => none

def bound (s : State) (binding : String × String) : State :=
  { s with bindings := s.bindings.insert binding.1 binding.2 }

theorem apply_eq_record (changelogs : Changelogs) (s : State) {trigger : Trigger}
    (free : trigger.binding? = none) :
    s.apply changelogs trigger = (s.finding? changelogs trigger).elim s s.record := by
  cases trigger with
  | feature feature =>
    simp only [apply, addFeature, finding?]
    cases changelogs.language.get? feature.key <;> rfl
  | hint names =>
    simp only [apply, addFeature, finding?]
    split
    · cases changelogs.language.get? Feature.genericHints.key <;> rfl
    · rfl
  | function name =>
    simp only [apply, finding?]
    cases changelogs.functions.get? name <;> rfl
  | exception name =>
    simp only [apply, finding?]
    cases changelogs.exceptions.get? name <;> rfl
  | importName name =>
    simp only [apply, finding?]
    cases changelogs.modules.get? name <;> rfl
  | chain name =>
    simp only [apply, finding?]
    cases changelogs.modules.get? (s.resolve name) <;> rfl
  | bind name origin => cases free

/-- A trigger records what it finds, binds a name, or leaves the state as it is. -/
theorem apply_cases (changelogs : Changelogs) (s : State) (trigger : Trigger) :
    (∃ finding, s.finding? changelogs trigger = some finding ∧ trigger.binding? = none ∧
        s.apply changelogs trigger = s.record finding) ∨
      (∃ binding, s.finding? changelogs trigger = none ∧ trigger.binding? = some binding ∧
        s.apply changelogs trigger = s.bound binding) ∨
      (s.finding? changelogs trigger = none ∧ trigger.binding? = none ∧
        s.apply changelogs trigger = s) := by
  cases named : trigger.binding? with
  | some binding =>
    cases trigger with
    | bind name origin =>
      cases named
      exact Or.inr (Or.inl ⟨(name, origin), rfl, rfl, rfl⟩)
    | _ => cases named
  | none =>
    have recorded := apply_eq_record changelogs s named
    cases found : s.finding? changelogs trigger with
    | some finding =>
      rw [found] at recorded
      exact Or.inl ⟨finding, rfl, rfl, recorded⟩
    | none =>
      rw [found] at recorded
      exact Or.inr (Or.inr ⟨rfl, rfl, recorded⟩)

/-- A finding is offered to its table, which takes it under a new key only. -/
theorem table_record (s : State) (finding : Finding) (subject : Subject) :
    (s.record finding).table subject =
      (s.table subject).collect (finding.inTable? subject).toList := by
  by_cases held : finding.HeldBy s
  · rw [record_of_heldBy held, Finding.inTable?]
    split
    · next same =>
      subst same
      exact (Table.addNew_of_taken held finding.requirement).symm
    · rfl
  · rw [record_of_new held, table_setTable, Finding.inTable?]
    split
    · next same =>
      subst same
      exact (Table.addNew_of_new held finding.requirement).symm
    · cases subject <;> rfl

theorem version_record (s : State) (finding : Finding) :
    (s.record finding).version = s.version ∨
      (s.record finding).version = raised s.version finding.requirement := by
  by_cases held : finding.HeldBy s
  · exact Or.inl (by rw [record_of_heldBy held])
  · exact Or.inr (by rw [record_of_new held, version_setTable])

theorem bindings_record (s : State) (finding : Finding) :
    (s.record finding).bindings = s.bindings := by
  by_cases held : finding.HeldBy s
  · rw [record_of_heldBy held]
  · rw [record_of_new held, bindings_setTable]

end State

variable {changelogs : Changelogs}

/-- The state after triggers for which no entry is missing. -/
def after (changelogs : Changelogs) (s : State) (triggers : List Trigger) : State :=
  triggers.foldl (State.apply changelogs) s

@[simp] theorem after_nil (s : State) : after changelogs s [] = s := rfl

@[simp] theorem after_cons (s : State) (trigger : Trigger) (rest : List Trigger) :
    after changelogs s (trigger :: rest) = after changelogs (s.apply changelogs trigger) rest := rfl

theorem after_append (s : State) (first second : List Trigger) :
    after changelogs s (first ++ second) = after changelogs (after changelogs s first) second :=
  List.foldl_append

/-- The triggers before the first for which an entry is missing. -/
def beforeMissing (language : Changelog) (triggers : List Trigger) : List Trigger :=
  triggers.takeWhile fun trigger => (trigger.missing? language).isNone

theorem beforeMissing_eq_self {language : Changelog} {triggers : List Trigger}
    (complete : ∀ trigger ∈ triggers, trigger.missing? language = none) :
    beforeMissing language triggers = triggers := by
  rw [beforeMissing, List.takeWhile_eq_self_iff]
  intro trigger held
  rw [complete trigger held]
  rfl

/--
A run applies the triggers before the first for which an entry is missing, and ends with what that
one misses.
-/
theorem run_eq (s : State) (triggers : List Trigger) :
    run changelogs s triggers =
      (after changelogs s (beforeMissing changelogs.language triggers),
        triggers.findSome? (Trigger.missing? changelogs.language)) := by
  induction triggers generalizing s with
  | nil => rfl
  | cons trigger rest ih =>
    rw [run, beforeMissing, List.takeWhile_cons, List.findSome?_cons]
    cases trigger.missing? changelogs.language with
    | none => exact ih (s.apply changelogs trigger)
    | some feature => rfl

/-- A run that ends well has applied all its triggers. -/
theorem run_eq_ok_iff {s t : State} {triggers : List Trigger} :
    run changelogs s triggers = (t, none) ↔
      (∀ trigger ∈ triggers, trigger.missing? changelogs.language = none) ∧
        after changelogs s triggers = t := by
  rw [run_eq, Prod.mk.injEq, List.findSome?_eq_none_iff, and_comm]
  apply and_congr_right
  intro complete
  rw [beforeMissing_eq_self complete]

/-- What the triggers find, each in the state that those before it lead to. -/
def findings (changelogs : Changelogs) : State → List Trigger → List Finding
  | _, [] => []
  | s, trigger :: rest =>
    (s.finding? changelogs trigger).toList ++ findings changelogs (s.apply changelogs trigger) rest

theorem findings_append (s : State) (first second : List Trigger) :
    findings changelogs s (first ++ second) =
      findings changelogs s first ++ findings changelogs (after changelogs s first) second := by
  induction first generalizing s with
  | nil => rfl
  | cons trigger rest ih =>
    simp only [List.cons_append, findings, ih, after_cons, List.append_assoc]

theorem table_apply (s : State) (trigger : Trigger) (subject : Subject) :
    (s.apply changelogs trigger).table subject =
      (s.table subject).collect
        ((s.finding? changelogs trigger).toList.filterMap (Finding.inTable? subject)) := by
  rcases s.apply_cases changelogs trigger with
    ⟨finding, found, -, applied⟩ | ⟨binding, found, -, applied⟩ | ⟨found, -, applied⟩
  · rw [applied, found, State.table_record, Finding.filterMap_toList, Option.bind_some]
  · rw [applied, found]
    cases subject <;> rfl
  · rw [applied, found]
    rfl

/-- A table after triggers has what they find for it, the first under each key. -/
theorem table_after (s : State) (triggers : List Trigger) (subject : Subject) :
    (after changelogs s triggers).table subject =
      (s.table subject).collect
        ((findings changelogs s triggers).filterMap (Finding.inTable? subject)) := by
  induction triggers generalizing s with
  | nil => rfl
  | cons trigger rest ih =>
    rw [after_cons, ih, table_apply, findings, List.filterMap_append, Table.collect_append]

/-- What the last of the pairs under a name says. -/
def latest (pairs : List (String × String)) (name : String) : Option String :=
  pairs.reverse.lookup name

/-- No later pair is under the name. -/
theorem latest_eq_some_iff {pairs : List (String × String)} {name origin : String} :
    latest pairs name = some origin ↔
      ∃ earlier later, pairs = earlier ++ (name, origin) :: later ∧ ∀ pair ∈ later, pair.1 ≠ name :=
  Table.lookup_reverse_eq_some_iff

theorem apply_bindings (s : State) (trigger : Trigger) :
    (s.apply changelogs trigger).bindings = s.bindings.insertAll trigger.binding?.toList := by
  rcases s.apply_cases changelogs trigger with
    ⟨finding, -, free, applied⟩ | ⟨binding, -, named, applied⟩ | ⟨-, free, applied⟩
  · rw [applied, free, State.bindings_record]
    rfl
  · rw [applied, named]
    rfl
  · rw [applied, free]
    rfl

/-- The bindings after triggers are what they bind, put in one after the other. -/
theorem after_bindings (s : State) (triggers : List Trigger) :
    (after changelogs s triggers).bindings =
      s.bindings.insertAll (triggers.filterMap Trigger.binding?) := by
  induction triggers generalizing s with
  | nil => rfl
  | cons trigger rest ih =>
    have head : (trigger :: rest).filterMap Trigger.binding? =
        trigger.binding?.toList ++ rest.filterMap Trigger.binding? := by
      rw [List.filterMap_cons]
      cases trigger.binding? <;> rfl
    rw [after_cons, ih, apply_bindings, head, Table.insertAll_append]

end VersionFloor.Analysis
