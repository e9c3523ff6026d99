import Mathlib.Data.List.Nodup
import VersionFloor.Proofs.Changelog.Search
import VersionFloor.Proofs.Version.Order

set_option autoImplicit false

namespace VersionFloor

namespace Action

def rank : Action → Nat
  | added => 0
  | deprecated => 1
  | removed => 2

theorem compare_eq_compare_rank (a b : Action) : compare a b = compare a.rank b.rank := by
  cases a <;> cases b <;> rfl

instance : Std.TransOrd Action where
  eq_swap {a b} := by
    rw [compare_eq_compare_rank, compare_eq_compare_rank]
    exact Std.OrientedOrd.eq_swap
  isLE_trans {a b c} := by
    simp only [compare_eq_compare_rank]
    exact Std.TransOrd.isLE_trans

theorem compare_eq_eq_iff {a b : Action} : compare a b = .eq ↔ a = b := by
  cases a <;> cases b <;> decide

end Action

theorem Requirement.mentions_iff {r : Requirement} {version : Version} :
    r.mentions version = true ↔ ∃ action, Action.versionOf action r = some version := by
  simp only [mentions, Bool.or_eq_true, decide_eq_true_eq]
  constructor
  · rintro ((added | deprecated) | removed)
    · exact ⟨.added, added⟩
    · exact ⟨.deprecated, deprecated⟩
    · exact ⟨.removed, removed⟩
  · rintro ⟨_ | _ | _, happened⟩
    · exact Or.inl (Or.inl happened)
    · exact Or.inl (Or.inr happened)
    · exact Or.inr happened

theorem Changelog.find_of_compiled {pattern : String} {glob : Glob}
    (compiled : Glob.compile pattern = .ok glob) (changelog : Changelog) (version : Option Version)
    (action : Option Action) :
    changelog.find pattern version action =
      .ok (changelog.filter fun name r => glob.accepts name && isWanted version action r) := by
  rw [find, compiled]
  rfl

namespace Change

/-- The order of rows: by version, then by action, then by name. -/
def Before (a b : Change) : Prop :=
  a.version < b.version ∨ a.version = b.version ∧
    (a.action.rank < b.action.rank ∨ a.action = b.action ∧ a.name < b.name)

instance : Std.TransOrd Change :=
  inferInstanceAs
    (Std.TransCmp (compareLex (compareOn version) (compareLex (compareOn action) (compareOn name))))

theorem compare_eq_then (a b : Change) :
    compare a b = (compare a.version b.version).then
      ((compare a.action b.action).then (compare a.name b.name)) := rfl

theorem compare_eq_lt_iff {a b : Change} : compare a b = .lt ↔ Before a b := by
  have names : compare a.name b.name = .lt ↔ a.name < b.name := compareOfLessAndEq_eq_lt
  rw [compare_eq_then, Ordering.then_eq_lt, Ordering.then_eq_lt, Action.compare_eq_eq_iff,
    Action.compare_eq_compare_rank, Nat.compare_eq_lt, Std.compare_eq_iff_eq, Std.compare_eq_lt,
    names]
  rfl

theorem eq_of_compare_eq {a b : Change} (same : compare a b = .eq) : a = b := by
  rw [compare_eq_then, Ordering.then_eq_eq, Ordering.then_eq_eq, Action.compare_eq_eq_iff,
    Std.compare_eq_iff_eq, Std.compare_eq_iff_eq] at same
  obtain ⟨versions, actions, names⟩ := same
  obtain ⟨version, action, name⟩ := a
  obtain ⟨_, _, _⟩ := b
  cases versions
  cases actions
  cases names
  rfl

theorem nodup_ofEntry (name : String) (r : Requirement) : (ofEntry name r).Nodup := by
  apply List.Nodup.filterMap _ (by decide : Action.all.Nodup)
  intro a b change fromA fromB
  obtain ⟨_, _, rfl⟩ := Option.map_eq_some_iff.1 fromA
  obtain ⟨_, _, same⟩ := Option.map_eq_some_iff.1 fromB
  exact (congrArg action same).symm

/-- Entries have distinct names, and a change carries the name of its entry. -/
theorem nodup_changes (changelog : Changelog) :
    (changelog.entries.flatMap fun entry => ofEntry entry.1 entry.2).Nodup := by
  rw [List.nodup_flatMap]
  refine ⟨fun entry _ => nodup_ofEntry entry.1 entry.2, ?_⟩
  apply (List.pairwise_map.1 changelog.nodup).imp
  intro a b apart change inA inB
  exact apart ((mem_ofEntry.1 inA).1.symm.trans (mem_ofEntry.1 inB).1)

theorem nodup_ofChangelog (changelog : Changelog) (version : Option Version)
    (action : Option Action) :
    (ofChangelog changelog version action).Nodup := by
  rw [ofChangelog, (List.mergeSort_perm _ _).nodup_iff]
  exact (nodup_changes changelog).filter _

/-- Rows in order, of which no two are the same, stand strictly before one another. -/
theorem pairwise_before (changelog : Changelog) (version : Option Version)
    (action : Option Action) :
    (ofChangelog changelog version action).Pairwise Before := by
  have apart : ((changelog.entries.flatMap fun entry => ofEntry entry.1 entry.2).filter
      (isWanted version action)).Pairwise fun a b => compare a b ≠ .eq := by
    refine ((nodup_changes changelog).filter _).imp ?_
    intro a b differ same
    exact differ (eq_of_compare_eq same)
  refine (pairwise_lt_mergeSort apart).imp ?_
  intro a b less
  exact compare_eq_lt_iff.1 less

/-- Lists of rows are the same if they have the same rows. -/
theorem ofChangelog_eq_of_mem_iff {one other : Changelog} {version : Option Version}
    {action : Option Action}
    (same : ∀ change, change ∈ ofChangelog one version action ↔
      change ∈ ofChangelog other version action) :
    ofChangelog one version action = ofChangelog other version action := by
  apply List.Perm.eq_of_pairwise _ (pairwise_before one version action)
    (pairwise_before other version action)
  · exact (List.perm_ext_iff_of_nodup (nodup_ofChangelog one version action)
      (nodup_ofChangelog other version action)).2 same
  · intro a b _ _ first second
    rw [← compare_eq_lt_iff] at first second
    exact absurd second (Std.OrientedCmp.not_lt_of_lt first)

theorem isWanted_iff {version : Option Version} {action : Option Action} {change : Change} :
    isWanted version action change = true ↔
      (∀ v, version = some v → change.version = v) ∧ ∀ a, action = some a → change.action = a := by
  simp only [isWanted, Bool.and_eq_true, Option.all_eq_true, decide_eq_true_eq]

/-- An entry with a wanted change is wanted as a whole. -/
theorem entry_isWanted {version : Option Version} {action : Option Action} {change : Change}
    {r : Requirement} (wanted : isWanted version action change = true)
    (happened : change.action.versionOf r = some change.version) :
    Changelog.isWanted version action r = true := by
  obtain ⟨inVersion, ofAction⟩ := isWanted_iff.1 wanted
  rw [Changelog.isWanted, Bool.and_eq_true, Option.all_eq_true, Option.all_eq_true]
  constructor
  · intro v asked
    rw [Requirement.mentions_iff, ← inVersion v asked]
    exact ⟨change.action, happened⟩
  · intro a asked
    rw [← ofAction a asked, happened]
    rfl

/--
The rows of the entries whose name matches and that a filter leaves, if it leaves all that are
wanted.
-/
theorem mem_rows_of_filter {changelog : Changelog} {glob : Glob} {version : Option Version}
    {action : Option Action} {keep : Requirement → Bool}
    (kept : ∀ r, Changelog.isWanted version action r = true → keep r = true) {change : Change} :
    change ∈ ofChangelog (changelog.filter fun name r => glob.accepts name && keep r)
      version action ↔
      (∃ r, (change.name, r) ∈ changelog.entries ∧ glob.accepts change.name = true ∧
        change.action.versionOf r = some change.version) ∧
          isWanted version action change = true := by
  simp only [mem_ofChangelog, Table.filter, List.mem_filter, Bool.and_eq_true]
  constructor
  · rintro ⟨wanted, r, ⟨held, accepted, -⟩, happened⟩
    exact ⟨⟨r, held, accepted, happened⟩, wanted⟩
  · rintro ⟨⟨r, held, accepted, happened⟩, wanted⟩
    exact ⟨wanted, r, ⟨held, accepted, kept r (entry_isWanted wanted happened)⟩, happened⟩

/--
A search succeeds with every pattern that can be read, and the filter of entries drops no row: the
rows are those that a search without version and action has in the version and of the action wanted.
They are the versions of the entries whose name matches, with what happened in them, each once and
in the order of versions, actions and names.
-/
theorem search_rows_exact {pattern : String} {glob : Glob}
    (compiled : Glob.compile pattern = .ok glob) (changelog : Changelog) (version : Option Version)
    (action : Option Action) :
    ∃ found matched, changelog.find pattern version action = .ok found ∧
      changelog.find pattern none none = .ok matched ∧
      ofChangelog found version action = ofChangelog matched version action ∧
      (∀ change, change ∈ ofChangelog found version action ↔
        (∃ r, (change.name, r) ∈ changelog.entries ∧ glob.accepts change.name = true ∧
          change.action.versionOf r = some change.version) ∧
        (∀ v, version = some v → change.version = v) ∧ ∀ a, action = some a → change.action = a) ∧
      (ofChangelog found version action).Nodup ∧
        (ofChangelog found version action).Pairwise Before := by
  refine ⟨_, _, Changelog.find_of_compiled compiled changelog version action,
    Changelog.find_of_compiled compiled changelog none none, ?_, ?_,
    nodup_ofChangelog _ version action, pairwise_before _ version action⟩
  · apply ofChangelog_eq_of_mem_iff
    intro change
    exact (mem_rows_of_filter fun _ => id).trans (mem_rows_of_filter fun _ _ => rfl).symm
  · intro change
    rw [mem_rows_of_filter fun _ => id, isWanted_iff]

/-- Modules of which two were removed in 3.6, and a third was deprecated then and removed later. -/
def mailModules : Changelog :=
  Table.ofList [("asyncore", { deprecated := some ⟨6, none⟩, removed := some ⟨12, none⟩ }),
    ("asynchat", { deprecated := some ⟨4, none⟩, removed := some ⟨6, none⟩ }),
    ("smtpd", { removed := some ⟨6, none⟩ })]

theorem compile_asyncStar : Glob.compile "as*" = .ok ⟨[.char 'a', .char 's', .anySequence]⟩ := by
  have read : Glob.compileFrom 0 none [] ['a', 's', '*'] =
      .ok [.char 'a', .char 's', .anySequence] := by
    simp [Glob.compileFrom]
  rw [Glob.compile, show "as*".toList = ['a', 's', '*'] from rfl, read]
  rfl

/--
The entry that was removed later is found, as it has both the version and the action, but has no
row.
-/
theorem mailModules_rows :
    Glob.compile "as*" = .ok ⟨[.char 'a', .char 's', .anySequence]⟩ ∧
    ∃ found matched, mailModules.find "as*" (some ⟨6, none⟩) (some .removed) = .ok found ∧
      mailModules.find "as*" none none = .ok matched ∧ found.names = ["asyncore", "asynchat"] ∧
      ofChangelog found (some ⟨6, none⟩) (some .removed) =
        ofChangelog matched (some ⟨6, none⟩) (some .removed) ∧
      ofChangelog found (some ⟨6, none⟩) (some .removed) = [⟨⟨6, none⟩, .removed, "asynchat"⟩] := by
  obtain ⟨found, matched, searched, all, same, -⟩ :=
    search_rows_exact compile_asyncStar mailModules (some ⟨6, none⟩) (some .removed)
  refine ⟨compile_asyncStar, found, matched, searched, all, ?_, same, ?_⟩
  · rw [Changelog.find_of_compiled compile_asyncStar] at searched
    cases searched
    decide
  · rw [Changelog.find_of_compiled compile_asyncStar] at searched
    cases searched
    exact (congrArg (List.mergeSort · _) (by decide)).trans (List.mergeSort_singleton _)

end Change

end VersionFloor
