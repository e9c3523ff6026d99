import VersionFloor.Changelog.Text
import VersionFloor.Proofs.Except
import VersionFloor.Proofs.Table
import VersionFloor.Proofs.Version.Text

set_option autoImplicit false

namespace VersionFloor

namespace Record

theorem version?_text (v : Option Version) : version? (v.map Version.text) = .ok v := by
  cases v with
  | none => rfl
  | some v => rw [Option.map_some, version?, Version.parse_text]

/-- The requirement of a record carries the name given. -/
theorem name_of_toRequirement {record : Record} {name : String} {r : Requirement}
    (checked : record.toRequirement name = .ok r) : r.name = some name := by
  unfold toRequirement at checked
  obtain ⟨added, _, checked⟩ := exists_of_bind_eq_ok checked
  obtain ⟨deprecated, _, checked⟩ := exists_of_bind_eq_ok checked
  obtain ⟨removed, _, checked⟩ := exists_of_bind_eq_ok checked
  split at checked
  · cases checked
  · cases checked
    rfl

/-- A requirement is got back from its record under its own name. -/
theorem toRequirement_ofRequirement {r : Requirement} {name : String} (named : r.name = some name) :
    (ofRequirement r).toRequirement name = .ok r := by
  obtain ⟨_, added, deprecated, removed, note, items, populated⟩ := r
  cases named
  have versions : Requirement.ofVersions? added deprecated removed =
      some { added, deprecated, removed, populated } := dif_pos populated
  simp only [toRequirement, ofRequirement, version?_text, bind, Except.bind, versions]
  rfl

end Record

namespace Changelog

/-- Every requirement carries the name it stands under. -/
def Named (entries : List (String × Requirement)) : Prop :=
  ∀ entry ∈ entries, entry.2.name = some entry.1

theorem checked_eq_ok_iff {entry : String × Record} {result : String × Requirement} :
    checked entry = .ok result ↔
      result.1 = entry.1 ∧ entry.2.toRequirement entry.1 = .ok result.2 := by
  obtain ⟨name, r⟩ := result
  rw [checked]
  cases valid : entry.2.toRequirement entry.1 with
  | error fault => simp
  | ok other => simp only [Except.ok.injEq, Prod.mk.injEq, eq_comm]

theorem named_of_mapM_checked {records : List (String × Record)}
    {entries : List (String × Requirement)} (passed : records.mapM checked = .ok entries) :
    Named entries := by
  intro entry held
  obtain ⟨record, -, valid⟩ := (mem_of_mapM_eq_ok passed).1 held
  obtain ⟨same, valid⟩ := checked_eq_ok_iff.1 valid
  rw [same]
  exact Record.name_of_toRequirement valid

theorem named_ofList {entries : List (String × Requirement)} (named : Named entries) :
    Named (Table.ofList entries).entries :=
  fun entry held => named entry (Table.mem_ofList held)

theorem ofRecords_eq_ok_iff {records : List (String × Record)} {changelog : Changelog} :
    ofRecords records = .ok changelog ↔
      ∃ entries, records.mapM checked = .ok entries ∧ Table.ofList entries = changelog := by
  rw [ofRecords]
  cases records.mapM checked with
  | error fault => simp [Except.map]
  | ok entries => simp [Except.map]

theorem named_ofRecords {records : List (String × Record)} {changelog : Changelog}
    (passed : ofRecords records = .ok changelog) : Named changelog.entries := by
  obtain ⟨entries, mapped, rfl⟩ := ofRecords_eq_ok_iff.1 passed
  exact named_ofList (named_of_mapM_checked mapped)

/-- The changelogs that are built from entries, records and texts and by merging. -/
inductive Built : Changelog → Prop
  | ofEntries (entries : List (String × Requirement)) : Built (ofEntries entries)
  | ofRecords {records : List (String × Record)} {changelog : Changelog}
      (passed : ofRecords records = .ok changelog) : Built changelog
  | parse {text : String} {changelog : Changelog} (read : parse text = .ok changelog) :
      Built changelog
  | merge {changelog other : Changelog} : Built changelog → Built other →
      Built (changelog.merge other).1

theorem Built.named {changelog : Changelog} (built : Built changelog) :
    Named changelog.entries := by
  induction built with
  | ofEntries entries =>
    apply named_ofList
    intro entry listed
    obtain ⟨⟨name, r⟩, _, rfl⟩ := List.mem_map.1 listed
    rfl
  | ofRecords passed => exact named_ofRecords passed
  | parse read =>
    unfold Changelog.parse at read
    split at read
    · cases read
    · exact named_ofRecords read
  | merge _ _ first second =>
    intro entry held
    exact (Table.mem_extend held).elim (first entry) (second entry)

theorem mapM_checked {entries : List (String × Requirement)} (named : Named entries) :
    (entries.map fun entry => (entry.1, Record.ofRequirement entry.2)).mapM checked =
      .ok entries := by
  induction entries with
  | nil => rfl
  | cons entry entries ih =>
    obtain ⟨here, later⟩ := List.forall_mem_cons.1 named
    have first : checked (entry.1, Record.ofRequirement entry.2) = .ok entry := by
      rw [checked, Record.toRequirement_ofRequirement here]
    rw [List.map_cons, List.mapM_cons, first, ih later]
    rfl

/-- A changelog is got back from its records. -/
theorem ofRecords_records {changelog : Changelog} (named : Named changelog.entries) :
    ofRecords changelog.records = .ok changelog := by
  have listed : changelog.records = changelog.entries.map fun entry =>
      (entry.1, Record.ofRequirement entry.2) := rfl
  rw [ofRecords, listed, mapM_checked named, Except.map, Table.ofList_entries]

end Changelog

end VersionFloor
