import VersionFloor.Proofs.Changelog.Built
import VersionFloor.Proofs.Changelog.Search

set_option autoImplicit false

namespace VersionFloor

/-- Something happened to every feature. -/
theorem Requirement.exists_versionOf (r : Requirement) :
    ∃ action version, Action.versionOf action r = some version := by
  rcases r.populated with added | deprecated | removed
  · exact ⟨.added, Option.isSome_iff_exists.1 added⟩
  · exact ⟨.deprecated, Option.isSome_iff_exists.1 deprecated⟩
  · exact ⟨.removed, Option.isSome_iff_exists.1 removed⟩

namespace Changelog

/-- A requirement as it stands under a name. -/
structure WellFormed (name : String) (r : Requirement) : Prop where
  named : r.name = some name
  populated : ∃ action version, Action.versionOf action r = some version
  versions : ∀ action version, Action.versionOf action r = some version →
    (version.components.length = 2 ∨ version.components.length = 3) ∧
      version.components.head? = some 3

theorem Built.wellFormed {changelog : Changelog} (built : Built changelog) {name : String}
    {r : Requirement} (held : (name, r) ∈ changelog.entries) : WellFormed name r where
  named := built.named (name, r) held
  populated := r.exists_versionOf
  versions _ version _ := ⟨version.length_components, rfl⟩

/-- Every entry gives a row when all entries are listed. -/
theorem exists_row {changelog : Changelog} {name : String} {r : Requirement}
    (held : (name, r) ∈ changelog.entries) :
    ∃ change ∈ Change.ofChangelog changelog none none,
      change.name = name ∧ change.action.versionOf r = some change.version := by
  obtain ⟨action, version, happened⟩ := r.exists_versionOf
  exact ⟨⟨version, action, name⟩, Change.mem_ofChangelog.2 ⟨rfl, r, held, happened⟩, rfl, happened⟩

/--
In a changelog that was built from entries, records and texts and by merging, whether this failed or
not, the names are distinct and every requirement carries its own name, has a version, and has only
versions of two or three components of which the first is 3. A search for all names succeeds and
lists each entry in a row at least, and a name is looked up with a requirement of that name.
-/
theorem built_changelog_wellFormed {changelog : Changelog} (built : Built changelog) :
    changelog.names.Nodup ∧ (∀ entry ∈ changelog.entries, WellFormed entry.1 entry.2) ∧
    (∃ found, changelog.find "*" none none = .ok found ∧ ∀ entry ∈ changelog.entries,
      ∃ change ∈ Change.ofChangelog found none none,
        change.name = entry.1 ∧ change.action.versionOf entry.2 = some change.version) ∧
    (∀ name ∈ changelog.names, ∃ r, changelog.get? name = some r) ∧
    ∀ name r, changelog.get? name = some r → r.name = some name := by
  refine ⟨changelog.nodup, fun _ => built.wellFormed,
    ⟨changelog, find_star changelog, fun _ => exists_row⟩, ?_, ?_⟩
  · intro name known
    exact (Table.contains_iff_get? changelog name).1 ((Table.contains_iff changelog name).2 known)
  · intro name r found
    exact (built.wellFormed (Table.get?_eq_some_iff.1 found)).named

def repeatedRecords : List (String × Record) :=
  [("spam", { added := some "3.2" }), ("eggs", { removed := some "3.10.1" }),
   ("spam", { deprecated := some "3.04" })]

/-- The changelog of the records, merged with entries up to the name they share. -/
def patched : Changelog :=
  (merge
    (Table.ofList [("spam", { name := some "spam", deprecated := some ⟨4, none⟩ }),
      ("eggs", { name := some "eggs", removed := some ⟨10, some 1⟩ })])
    (ofEntries [("ham", .addedIn ⟨5, none⟩), ("eggs", .addedIn ⟨6, none⟩),
      ("late", .addedIn ⟨7, none⟩)])).1

theorem ofRecords_repeatedRecords : ofRecords repeatedRecords =
    .ok (Table.ofList [("spam", { name := some "spam", deprecated := some ⟨4, none⟩ }),
      ("eggs", { name := some "eggs", removed := some ⟨10, some 1⟩ })]) := by
  rfl

theorem patched_wellFormed :
    Built patched ∧ patched.names = ["spam", "eggs", "ham"] ∧
      (∀ entry ∈ patched.entries, WellFormed entry.1 entry.2) ∧
      ∃ found, patched.find "*" none none = .ok found ∧ ∀ entry ∈ patched.entries,
        ∃ change ∈ Change.ofChangelog found none none,
          change.name = entry.1 ∧ change.action.versionOf entry.2 = some change.version := by
  have built : Built patched := .merge (.ofRecords ofRecords_repeatedRecords) (.ofEntries _)
  obtain ⟨-, entries, rows, -⟩ := built_changelog_wellFormed built
  exact ⟨built, by decide, entries, rows⟩

end Changelog

end VersionFloor
