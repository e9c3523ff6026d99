import VersionFloor.Proofs.Analysis.Floor
import VersionFloor.Proofs.Analysis.Report

set_option autoImplicit false

namespace VersionFloor

theorem Feature.mem_all (feature : Feature) : feature ∈ Feature.all := by
  cases feature <;> decide

namespace Changelogs

/--
The entries that can be reported among the language features, each under the key it is reported by.
-/
def reported (changelogs : Changelogs) : List (String × Requirement) :=
  changelogs.language.found (Feature.all.map Feature.key)
    ++ changelogs.functions.entries.map (fun entry => (functionKey entry.1, entry.2))
    ++ changelogs.exceptions.entries

/-- Entries that are reported under one key were added in one version. -/
def KeysAgree (changelogs : Changelogs) : Prop :=
  ∀ one ∈ changelogs.reported, ∀ other ∈ changelogs.reported, one.1 = other.1 →
    one.2.added = other.2.added

instance (changelogs : Changelogs) : Decidable changelogs.KeysAgree :=
  inferInstanceAs (Decidable (∀ one ∈ changelogs.reported, ∀ other ∈ changelogs.reported,
    one.1 = other.1 → one.2.added = other.2.added))

end Changelogs

namespace Analysis

open Script

variable {changelogs : Changelogs}

/--
An entry that some node of the script finds, under the bindings that the imports before it have
made.
-/
def Triggered (changelogs : Changelogs) (body : List Stmt) (r : Requirement) : Prop :=
  ∃ before node, Reached body before node ∧
    ((∃ key, LanguageEntry changelogs (boundBy before) node key r) ∨
      ∃ name ∈ node.lookups (boundBy before), changelogs.modules.get? name = some r)

theorem mem_reported_of_languageEntry {bindings : String → Option String} {node : Node}
    {key : String} {r : Requirement} (entered : LanguageEntry changelogs bindings node key r) :
    (key, r) ∈ changelogs.reported := by
  simp only [Changelogs.reported, List.mem_append]
  cases entered with
  | @feature feature _ shown entry =>
    exact Or.inl (Or.inl (Table.mem_found.2 ⟨List.mem_map_of_mem (Feature.mem_all feature), entry⟩))
  | generics named entry =>
    exact Or.inl
      (Or.inl (Table.mem_found.2 ⟨List.mem_map_of_mem (Feature.mem_all .genericHints), entry⟩))
  | @function name _ called entry =>
    exact Or.inl (Or.inr (List.mem_map.2 ⟨(name, r), Table.get?_eq_some_iff.1 entry, rfl⟩))
  | exception named entry => exact Or.inr (Table.get?_eq_some_iff.1 entry)

theorem mem_lookups {before nodes : List Node} {name : String} :
    name ∈ lookups before nodes ↔
      ∃ first node later, nodes = first ++ node :: later ∧
        name ∈ node.lookups (boundBy (before ++ first)) := by
  induction nodes generalizing before with
  | nil => simp [lookups]
  | cons head rest ih =>
    rw [lookups, List.mem_append, ih]
    constructor
    · rintro (here | ⟨first, node, later, rfl, looked⟩)
      · exact ⟨[], head, rest, rfl, by rwa [List.append_nil]⟩
      · refine ⟨head :: first, node, later, rfl, ?_⟩
        rwa [List.append_assoc, List.singleton_append] at looked
    · rintro ⟨first, node, later, split, looked⟩
      cases first with
      | nil =>
        obtain ⟨rfl, rfl⟩ := List.cons.inj split
        rw [List.append_nil] at looked
        exact Or.inl looked
      | cons one first =>
        obtain ⟨rfl, rfl⟩ := List.cons.inj split
        refine Or.inr ⟨first, node, later, rfl, ?_⟩
        rwa [List.append_assoc, List.singleton_append]

theorem mem_lookups_inPreorder {body : List Stmt} {name : String} :
    name ∈ lookups [] (inPreorder body) ↔
      ∃ before node, Reached body before node ∧ name ∈ node.lookups (boundBy before) := by
  rw [mem_lookups]
  constructor
  · rintro ⟨before, node, later, split, looked⟩
    exact ⟨before, node, ⟨later, split⟩, looked⟩
  · rintro ⟨before, node, ⟨later, split⟩, looked⟩
    exact ⟨before, node, later, split, looked⟩

/-- What is collected of the language features was found by some node. -/
theorem languageEntry_of_collected {baseline : Version} {body : List Stmt} {key : String}
    {r : Requirement}
    (held : (key, r) ∈ (after changelogs (.fresh baseline) (triggers body)).language.entries) :
    ∃ before node, Reached body before node ∧
      LanguageEntry changelogs (boundBy before) node key r := by
  rw [← State.table_language, table_after] at held
  rcases Table.mem_collect held with none | offered
  · cases none
  · exact mem_language_findings.1 offered

/-- What is collected of the modules was looked up by some node. -/
theorem lookup_of_collected {baseline : Version} {body : List Stmt} (dotless : DotlessNames body)
    {name : String} {r : Requirement}
    (held : (name, r) ∈ (after changelogs (.fresh baseline) (triggers body)).modules.entries) :
    ∃ before node, Reached body before node ∧ name ∈ node.lookups (boundBy before) ∧
      changelogs.modules.get? name = some r := by
  rw [← State.table_modules, table_after, modules_findings baseline dotless] at held
  rcases Table.mem_collect held with none | offered
  · cases none
  · obtain ⟨looked, entry⟩ := Table.mem_found.1 offered
    obtain ⟨before, node, reached, looked⟩ := mem_lookups_inPreorder.1 looked
    exact ⟨before, node, reached, looked, entry⟩

/--
An entry that a node finds for the language is collected, or another one under its key was before
it.
-/
theorem collected_of_languageEntry (baseline : Version) {body : List Stmt} {before : List Node}
    {node : Node} {key : String} {r : Requirement} (reached : Reached body before node)
    (entered : LanguageEntry changelogs (boundBy before) node key r) :
    ∃ first, (key, first) ∈
      (after changelogs (.fresh baseline) (triggers body)).language.entries := by
  apply Table.exists_mem_of_mem_names
  rw [← State.table_language, table_after, Table.mem_names_collect]
  exact Or.inr
    (List.mem_map.2 ⟨(key, r), mem_language_findings.2 ⟨before, node, reached, entered⟩, rfl⟩)

theorem collected_of_lookup (baseline : Version) {body : List Stmt} (dotless : DotlessNames body)
    {before : List Node} {node : Node} {name : String} {r : Requirement}
    (reached : Reached body before node) (looked : name ∈ node.lookups (boundBy before))
    (entry : changelogs.modules.get? name = some r) :
    (name, r) ∈ (after changelogs (.fresh baseline) (triggers body)).modules.entries := by
  have known : name ∈ (after changelogs (.fresh baseline) (triggers body)).modules.names := by
    rw [← State.table_modules, table_after, modules_findings baseline dotless,
      Table.mem_names_collect]
    have offered := Table.mem_found.2
      ⟨mem_lookups_inPreorder.2 ⟨before, node, reached, looked⟩, entry⟩
    exact Or.inr (List.mem_map.2 ⟨(name, r), offered, rfl⟩)
  obtain ⟨first, held⟩ := Table.exists_mem_of_mem_names known
  obtain ⟨-, -, -, -, same⟩ := lookup_of_collected dotless held
  rw [entry] at same
  cases same
  exact held

/-- The modules collected are the names looked up that the changelog knows, as it knows them. -/
theorem mem_modules_after (baseline : Version) {body : List Stmt} (dotless : DotlessNames body)
    {name : String} {r : Requirement} :
    (name, r) ∈ (after changelogs (.fresh baseline) (triggers body)).modules.entries ↔
      changelogs.modules.get? name = some r ∧ name ∈ lookups [] (inPreorder body) := by
  constructor
  · intro held
    obtain ⟨before, node, reached, looked, entry⟩ := lookup_of_collected dotless held
    exact ⟨entry, mem_lookups_inPreorder.2 ⟨before, node, reached, looked⟩⟩
  · rintro ⟨entry, listed⟩
    obtain ⟨before, node, reached, looked⟩ := mem_lookups_inPreorder.1 listed
    exact collected_of_lookup baseline dotless reached looked entry

/-- With agreeing keys no version is lost when only the first entry under a key is collected. -/
theorem addedVersions_after (baseline : Version) {body : List Stmt} (agree : changelogs.KeysAgree)
    (dotless : DotlessNames body) :
    addedVersions (after changelogs (.fresh baseline) (triggers body)) =
      { v | ∃ r, Triggered changelogs body r ∧ r.added = some v } := by
  ext v
  simp only [addedVersions, Set.mem_ofPred_eq, List.mem_append]
  constructor
  · rintro ⟨⟨key, r⟩, language | module, added⟩
    · obtain ⟨before, node, reached, entered⟩ := languageEntry_of_collected language
      exact ⟨r, ⟨before, node, reached, Or.inl ⟨key, entered⟩⟩, added⟩
    · obtain ⟨before, node, reached, looked, entry⟩ := lookup_of_collected dotless module
      exact ⟨r, ⟨before, node, reached, Or.inr ⟨key, looked, entry⟩⟩, added⟩
  · rintro ⟨r, ⟨before, node, reached, ⟨key, entered⟩ | ⟨name, looked, entry⟩⟩, added⟩
    · obtain ⟨first, held⟩ := collected_of_languageEntry baseline reached entered
      obtain ⟨_, _, _, earlier⟩ := languageEntry_of_collected held
      have same : first.added = r.added :=
        agree _ (mem_reported_of_languageEntry earlier) _
          (mem_reported_of_languageEntry entered) rfl
      exact ⟨(key, first), Or.inl held, same.trans added⟩
    · exact ⟨(name, r), Or.inr (collected_of_lookup baseline dotless reached looked entry), added⟩

/--
The version that an analysis comes to is the greatest of the baseline and the versions of addition
of all entries that nodes of the script trigger.
-/
theorem minimum_version_isGreatest {baseline : Version} {body : List Stmt} {s : State}
    (agree : changelogs.KeysAgree) (dotless : DotlessNames body)
    (ended : analyze changelogs (.fresh baseline) body = (s, none)) :
    IsGreatest ({baseline} ∪ { v | ∃ r, Triggered changelogs body r ∧ r.added = some v })
      s.version := by
  obtain ⟨-, rfl⟩ := analyze_eq_ok_iff.1 ended
  rw [← addedVersions_after baseline agree dotless]
  exact floored_after (floored_fresh baseline) (triggers body)

theorem minimum_version_of_sample :
    Changelogs.builtin.KeysAgree ∧ DotlessNames sample ∧
      (∃ s, analyze Changelogs.builtin (.fresh .baseline) sample = (s, none)) ∧
      IsGreatest ({Version.baseline} ∪
        { v | ∃ r, Triggered Changelogs.builtin sample r ∧ r.added = some v })
        ⟨9, none⟩ := by
  have agree : Changelogs.builtin.KeysAgree := by decide +kernel
  have ended := analyze_builtin (.fresh .baseline) sample
  have version : (after Changelogs.builtin (.fresh .baseline) (triggers sample)).version =
      ⟨9, none⟩ := by
    rw [triggers, ← map_snd_visits, ← inPreorder, inPreorder_sample]
    decide +kernel
  refine ⟨agree, dotlessNames_sample, ⟨_, ended⟩, ?_⟩
  rw [← version]
  exact minimum_version_isGreatest agree dotlessNames_sample ended

end Analysis

end VersionFloor
