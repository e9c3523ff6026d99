import VersionFloor.Proofs.Analysis.Operation
import VersionFloor.Proofs.Version.Order

set_option autoImplicit false

namespace VersionFloor.Analysis

variable {changelogs : Changelogs}

/-- The versions in which the features of both tables were added. -/
def addedVersions (s : State) : Set Version :=
  { v | ∃ entry ∈ s.language.entries ++ s.modules.entries, entry.2.added = some v }

/-- The version is the greatest of the baseline and those of the requirements collected. -/
def Floored (baseline : Version) (s : State) : Prop :=
  IsGreatest ({baseline} ∪ addedVersions s) s.version

theorem floored_fresh (baseline : Version) : Floored baseline (.fresh baseline) := by
  have none : addedVersions (.fresh baseline) = ∅ := by
    simp [addedVersions, State.fresh]
  rw [Floored, none, Set.union_empty]
  exact isGreatest_singleton

/-- A requirement raises the version to that of its addition, if there is one. -/
theorem isGreatest_raised {versions : Set Version} {version : Version}
    (held : IsGreatest versions version) (r : Requirement) :
    IsGreatest (versions ∪ { v | r.added = some v }) (State.raised version r) := by
  cases added : r.added with
  | none => simpa [State.raised, added] using held
  | some other =>
    have single : { v | some other = some v } = {other} := by
      ext v
      simp only [Set.mem_ofPred_eq, Option.some.injEq, Set.mem_singleton_iff, eq_comm]
    rw [single, State.raised, added]
    exact held.union isGreatest_singleton

theorem addedVersions_of_grown {s t : State} {key : String} {r : Requirement}
    (grown : ∀ entry, entry ∈ t.language.entries ++ t.modules.entries ↔
      entry ∈ s.language.entries ++ s.modules.entries ∨ entry = (key, r)) :
    addedVersions t = addedVersions s ∪ { v | r.added = some v } := by
  ext v
  simp only [addedVersions, grown, Set.mem_union, Set.mem_ofPred_eq]
  constructor
  · rintro ⟨entry, old | rfl, added⟩
    · exact Or.inl ⟨entry, old, added⟩
    · exact Or.inr added
  · rintro (⟨entry, old, added⟩ | added)
    · exact ⟨entry, Or.inl old, added⟩
    · exact ⟨(key, r), Or.inr rfl, added⟩

/-- One more entry, with the version raised for it, keeps the version the greatest. -/
theorem Floored.grow {baseline : Version} {s t : State} {r : Requirement}
    (held : Floored baseline s) (key : String) (raised : t.version = State.raised s.version r)
    (grown : ∀ entry, entry ∈ t.language.entries ++ t.modules.entries ↔
      entry ∈ s.language.entries ++ s.modules.entries ∨ entry = (key, r)) : Floored baseline t := by
  rw [Floored, raised, addedVersions_of_grown grown, ← Set.union_assoc]
  exact isGreatest_raised held r

theorem floored_record {baseline : Version} {s : State} (held : Floored baseline s)
    (finding : Finding) :
    Floored baseline (s.record finding) := by
  by_cases taken : finding.HeldBy s
  · rwa [State.record_of_heldBy taken]
  · obtain ⟨subject, key, r⟩ := finding
    rw [State.record_of_new taken]
    refine held.grow key (State.version_setTable _ _ _) fun entry => ?_
    cases subject with
    | language =>
      simp only [State.setTable, Table.entries_insert_of_new taken, List.mem_append,
        List.mem_singleton]
      exact or_right_comm
    | modules =>
      simp only [State.setTable, Table.entries_insert_of_new taken, List.mem_append,
        List.mem_singleton]
      exact or_assoc.symm

/-- Whatever changes lead to keeps the version the greatest. -/
theorem Floored.of_leads {baseline : Version} {s t : State} (held : Floored baseline s)
    (leads : Leads s t) :
    Floored baseline t := by
  induction leads with
  | refl => exact held
  | tail _ change ih =>
    cases change with
    | record finding => exact floored_record ih finding
    | bind binding => exact ih

theorem floored_after {baseline : Version} {s : State} (held : Floored baseline s)
    (triggers : List Trigger) : Floored baseline (after changelogs s triggers) :=
  held.of_leads (leads_after s triggers)

/--
After any operations on a fresh state, whether they fail or not, the version is the greatest of the
baseline and the versions of addition of all requirements held.
-/
theorem version_isGreatest_after_operations (changelogs : Changelogs) (baseline : Version)
    (operations : List Operation) :
    IsGreatest ({baseline} ∪ addedVersions (performAll changelogs (.fresh baseline) operations))
      (performAll changelogs (.fresh baseline) operations).version :=
  (floored_fresh baseline).of_leads (leads_performAll (.fresh baseline) operations)

end VersionFloor.Analysis
