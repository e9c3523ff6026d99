import VersionFloor.Proofs.Analysis.Operation
import VersionFloor.Proofs.Version.Order

set_option autoImplicit false

namespace VersionFloor.Analysis

/--
What a state holds is there in a later one: the requirements first and in order, the names bound,
the version.
-/
structure Extends (s t : State) : Prop where
  tables (subject : Subject) : (s.table subject).entries <+: (t.table subject).entries
  bindings : s.bindings.names ⊆ t.bindings.names
  version : s.version ≤ t.version

namespace Extends

theorem refl (s : State) : Extends s s :=
  ⟨fun _ => List.prefix_refl _, List.Subset.refl _, le_refl _⟩

theorem trans {s t u : State} (first : Extends s t) (second : Extends t u) : Extends s u :=
  ⟨fun subject => (first.tables subject).trans (second.tables subject),
    List.Subset.trans first.bindings second.bindings, first.version.trans second.version⟩

end Extends

theorem le_raised (version : Version) (r : Requirement) : version ≤ State.raised version r := by
  rw [State.raised]
  cases r.added with
  | none => exact le_refl version
  | some added => exact le_max_left version added

theorem version_le_record (s : State) (finding : Finding) :
    s.version ≤ (s.record finding).version := by
  rcases s.version_record finding with same | raised
  · exact same.ge
  · exact (le_raised s.version finding.requirement).trans raised.ge

theorem extends_record (s : State) (finding : Finding) : Extends s (s.record finding) where
  tables subject := by
    rw [State.table_record]
    exact (s.table subject).prefix_collect _
  bindings := by
    rw [State.bindings_record]
    exact List.Subset.refl _
  version := version_le_record s finding

theorem extends_bound (s : State) (binding : String × String) : Extends s (s.bound binding) where
  tables := by
    intro subject
    cases subject <;> exact List.prefix_refl _
  bindings := fun _ known => Table.mem_names_insert.2 (Or.inl known)
  version := le_refl _

theorem Extends.of_leads {s t : State} (leads : Leads s t) : Extends s t := by
  induction leads with
  | refl => exact Extends.refl s
  | tail _ change ih =>
    cases change with
    | record finding => exact ih.trans (extends_record _ finding)
    | bind binding => exact ih.trans (extends_bound _ binding)

/--
Operations on any state, whether they fail or not, leave the entries of both tables where they are
and what they are, and put new ones behind them under keys of their own; they unbind no name and
never lower the version.
-/
theorem operations_only_add (changelogs : Changelogs) (s : State) (operations : List Operation) :
    let t := performAll changelogs s operations
    s.language.entries <+: t.language.entries ∧ s.modules.entries <+: t.modules.entries ∧
      t.language.names.Nodup ∧ t.modules.names.Nodup ∧
      (∀ key r, s.language.get? key = some r → t.language.get? key = some r) ∧
      (∀ key r, s.modules.get? key = some r → t.modules.get? key = some r) ∧
      s.bindings.names ⊆ t.bindings.names ∧ s.version ≤ t.version := by
  intro t
  have extended : Extends s t := .of_leads (leads_performAll s operations)
  have language := extended.tables .language
  have modules := extended.tables .modules
  exact ⟨language, modules, t.language.nodup, t.modules.nodup,
    fun _ _ => Table.get?_of_prefix language, fun _ _ => Table.get?_of_prefix modules,
    extended.bindings, extended.version⟩

end VersionFloor.Analysis
