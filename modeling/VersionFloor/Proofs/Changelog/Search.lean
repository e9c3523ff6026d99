import VersionFloor.Changelog.Search
import VersionFloor.Proofs.Table

set_option autoImplicit false

namespace VersionFloor

namespace Glob

theorem outcome_nil (cs : List Char) :
    outcome [] cs = if cs.isEmpty then .matched else .mismatch := rfl

/-- A run that may stop anywhere goes on to the end of the text if nothing is to follow it. -/
theorem skim_outcome_nil (cs : List Char) : skim (fun _ => true) (outcome []) cs = .matched := by
  induction cs with
  | nil => rfl
  | cons c rest ih =>
    rw [skim, if_pos rfl, outcome_nil]
    cases rest with
    | nil => rfl
    | cons d rest => exact ih

theorem outcome_anySequence (cs : List Char) : outcome [.anySequence] cs = .matched := by
  rw [outcome, skimAny, outcome_nil]
  cases cs with
  | nil => rfl
  | cons c rest => exact skim_outcome_nil (c :: rest)

theorem compile_star : compile "*" = .ok ⟨[.anySequence]⟩ := by
  have read : compileFrom 0 none [] ['*'] = .ok [.anySequence] := by
    simp [compileFrom]
  rw [compile, show "*".toList = ['*'] from rfl, read]
  rfl

theorem accepts_anySequence (text : String) : accepts ⟨[.anySequence]⟩ text = true := by
  rw [accepts, outcome_anySequence]
  rfl

end Glob

theorem Table.filter_eq_self {α : Type} {t : Table α} {keep : String → α → Bool}
    (kept : ∀ entry ∈ t.entries, keep entry.1 entry.2 = true) : t.filter keep = t :=
  eq_of_entries (List.filter_eq_self.2 kept)

/-- A search for every name finds the changelog itself. -/
theorem Changelog.find_star (changelog : Changelog) :
    changelog.find "*" none none = .ok changelog := by
  have kept : changelog.filter
      (fun name r => Glob.accepts ⟨[.anySequence]⟩ name && isWanted none none r) = changelog := by
    apply Table.filter_eq_self
    intro entry _
    rw [Glob.accepts_anySequence]
    rfl
  rw [find, Glob.compile_star]
  exact congrArg Except.ok kept

theorem Action.mem_all (action : Action) : action ∈ Action.all := by
  cases action <;> decide

namespace Change

/-- The changes of an entry are its versions, each with the action it belongs to. -/
theorem mem_ofEntry {name : String} {r : Requirement} {change : Change} :
    change ∈ ofEntry name r ↔
      change.name = name ∧ change.action.versionOf r = some change.version := by
  rw [ofEntry, List.mem_filterMap]
  constructor
  · rintro ⟨action, -, found⟩
    obtain ⟨version, held, rfl⟩ := Option.map_eq_some_iff.1 found
    exact ⟨rfl, held⟩
  · rintro ⟨rfl, held⟩
    exact ⟨change.action, change.action.mem_all, by rw [held]; rfl⟩

/-- The rows of a changelog are the wanted changes of its entries. -/
theorem mem_ofChangelog {changelog : Changelog} {version : Option Version} {action : Option Action}
    {change : Change} :
    change ∈ ofChangelog changelog version action ↔
      isWanted version action change = true ∧
        ∃ r, (change.name, r) ∈ changelog.entries ∧
          change.action.versionOf r = some change.version := by
  rw [ofChangelog, List.mem_mergeSort, List.mem_filter, and_comm, List.mem_flatMap]
  apply and_congr_right
  intro _
  constructor
  · rintro ⟨⟨name, r⟩, held, found⟩
    obtain ⟨rfl, versioned⟩ := mem_ofEntry.1 found
    exact ⟨r, held, versioned⟩
  · rintro ⟨r, held, versioned⟩
    exact ⟨(change.name, r), held, mem_ofEntry.2 ⟨rfl, versioned⟩⟩

end Change

end VersionFloor
