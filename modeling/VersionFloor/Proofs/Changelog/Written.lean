import VersionFloor.Proofs.Changelog.Merge
import VersionFloor.Proofs.Changelog.Records

set_option autoImplicit false

namespace VersionFloor.Changelog

open Changelogs (changelogAt)

variable {tree : FileTree} {folder file : String} {files : List String}
  {merged changelog : Changelog} {members : List (String × Record)}

/-- The members of the object that a file holds, as many as are written. -/
def Written (tree : FileTree) (file : String) (members : List (String × Record)) : Prop :=
  ∃ text, tree.read file = .ok text ∧ (Json.Reader.object Record.reader).parse text = .ok members

/-- Every member is in the changelog with what its record says. -/
def Kept (merged : Changelog) (members : List (String × Record)) : Prop :=
  ∀ member ∈ members, ∃ r, member.2.toRequirement member.1 = .ok r ∧ merged.get? member.1 = some r

def Consistent (members : List (String × Record)) : Prop :=
  ∀ first ∈ members, ∀ second ∈ members, first.1 = second.1 →
    first.2.toRequirement first.1 = second.2.toRequirement second.1

theorem Written.unique {other : List (String × Record)} (one : Written tree file members)
    (another : Written tree file other) : members = other := by
  obtain ⟨text, read, parsed⟩ := one
  obtain ⟨same, readSame, parsedSame⟩ := another
  cases read.symm.trans readSame
  exact Except.ok.inj (parsed.symm.trans parsedSame)

theorem IsLast.mem {name : String} {record : Record} (last : IsLast members name record) :
    (name, record) ∈ members := by
  obtain ⟨before, after, rfl, -⟩ := last
  exact List.mem_append_right before List.mem_cons_self

theorem exists_isLast {member : String × Record} (held : member ∈ members) :
    ∃ record, IsLast members member.1 record := by
  simp only [isLast_iff, Table.get?_ofList]
  cases found : members.reverse.lookup member.1 with
  | some record => exact ⟨record, rfl⟩
  | none =>
    have absent := List.lookup_eq_none_iff.1 found member (List.mem_reverse.2 held)
    simp at absent

/-- The changelog of records has an entry for each of them. -/
theorem exists_get?_of_ofRecords {records : Table Record}
    (passed : ofRecords records.entries = .ok changelog) {name : String} {record : Record}
    (listed : records.get? name = some record) :
    ∃ r, record.toRequirement name = .ok r ∧ changelog.get? name = some r := by
  obtain ⟨entries, mapped, rfl⟩ := ofRecords_eq_ok_iff.1 passed
  obtain ⟨⟨_, r⟩, valid⟩ := exists_of_mapM_eq_ok mapped (Table.get?_eq_some_iff.1 listed)
  obtain ⟨rfl, requires⟩ := checked_eq_ok_iff.1 valid
  refine ⟨r, requires, ?_⟩
  have backwards := List.forall₂_reverse_iff.2 (mapM_eq_ok_iff.1 mapped)
  rw [Table.get?_ofList, lookup_of_checked backwards]
  refine ⟨record, ?_, Record.toRequirement_eq_ok_iff.1 requires⟩
  rw [← Table.get?_ofList, Table.ofList_entries, listed]

/--
A member of a file has an entry in its changelog, which is that of the last member with its name.
-/
def StandsBy (changelog : Changelog) (members : List (String × Record)) : Prop :=
  ∀ member ∈ members, ∃ record r, IsLast members member.1 record ∧
    record.toRequirement member.1 = .ok r ∧ changelog.get? member.1 = some r

/-- A file that is read as a changelog has members, and the last of each name is what counts. -/
theorem exists_written (read : changelogAt tree file = .ok changelog) :
    ∃ members, Written tree file members ∧ StandsBy changelog members := by
  rw [changelogAt] at read
  split at read
  · next text content =>
    rw [ofText] at read
    split at read
    · next parsed =>
      cases read
      rw [parse] at parsed
      split at parsed
      · cases parsed
      · next members found =>
        refine ⟨members, ⟨text, content, found⟩, fun member held => ?_⟩
        obtain ⟨record, last⟩ := exists_isLast held
        obtain ⟨r, valid, entry⟩ := exists_get?_of_ofRecords parsed (isLast_iff.1 last)
        exact ⟨record, r, last, valid, entry⟩
    · cases read
  · cases read

theorem standsBy_of_written (read : changelogAt tree file = .ok changelog)
    (written : Written tree file members) :
    StandsBy changelog members := by
  obtain ⟨other, writtenOther, standsBy⟩ := exists_written read
  rwa [written.unique writtenOther]

theorem StandsBy.mem_names (standsBy : StandsBy changelog members) {name : String}
    (held : name ∈ members.map (·.1)) :
    name ∈ changelog.names := by
  obtain ⟨member, listed, rfl⟩ := List.mem_map.1 held
  obtain ⟨record, r, -, -, found⟩ := standsBy member listed
  exact Table.mem_names_of_mem (Table.get?_eq_some_iff.1 found)

/--
Of members that stand by the last of their name all are kept if those of one name say the same.
-/
theorem StandsBy.kept_iff (standsBy : StandsBy merged members) :
    Kept merged members ↔ Consistent members := by
  constructor
  · intro kept first heldFirst second heldSecond same
    obtain ⟨r, valid, found⟩ := kept first heldFirst
    obtain ⟨other, validOther, foundOther⟩ := kept second heldSecond
    rw [same, foundOther] at found
    rw [valid, validOther, Option.some.inj found]
  · intro consistent member held
    obtain ⟨record, r, last, valid, found⟩ := standsBy member held
    exact ⟨r, (consistent member held _ last.mem rfl).trans valid, found⟩

/-- What stands by a file's members in its changelog does so in the whole. -/
theorem standsBy_of_merged {count : Nat} (selected : mergeFiles tree folder = .ok files)
    (given : files ≠ []) (done : mergeFolder tree folder = .ok (merged, count))
    (listed : file ∈ files) :
    ∃ members, Written tree file members ∧ StandsBy merged members := by
  obtain ⟨read, all, -, holds, -⟩ := exists_read_of_ok selected given done
  obtain ⟨changelog, among, reads⟩ := exists_mem_of_forall₂ all listed
  obtain ⟨members, written, standsBy⟩ := exists_written reads
  refine ⟨members, written, fun member held => ?_⟩
  obtain ⟨record, r, last, valid, found⟩ := standsBy member held
  exact ⟨record, r, last, valid, holds.get?_of_mem among found⟩

/-- A name that is written in two files ends the merge. -/
theorem exists_error_of_shared {first second name : String}
    {membersFirst membersSecond : List (String × Record)}
    (selected : mergeFiles tree folder = .ok files) (two : [first, second].Sublist files)
    (writtenFirst : Written tree first membersFirst)
    (writtenSecond : Written tree second membersSecond) (inFirst : name ∈ membersFirst.map (·.1))
    (inSecond : name ∈ membersSecond.map (·.1)) :
    ∃ error, mergeFolder tree folder = .error error := by
  cases outcome : mergeFolder tree folder with
  | error error => exact ⟨error, rfl⟩
  | ok result =>
    exfalso
    have given : files ≠ [] := List.ne_nil_of_mem (two.subset List.mem_cons_self)
    obtain ⟨read, all, apart, -⟩ := exists_read_of_ok selected given outcome
    obtain ⟨one, -, readOne⟩ :=
      exists_mem_of_forall₂ all (two.subset (by simp : first ∈ [first, second]))
    obtain ⟨other, -, readOther⟩ :=
      exists_mem_of_forall₂ all (two.subset (by simp : second ∈ [first, second]))
    have parted := List.pairwise_iff_forall_sublist.1 (all.pairwise apart) two one other
      readOne readOther
    exact parted name ((standsBy_of_written readOne writtenFirst).mem_names inFirst)
      ((standsBy_of_written readOther writtenSecond).mem_names inSecond)

/--
Merging the files of a folder: a feature that is defined in two files is an error. Of what is
written in one file the last definition of each feature is there after the merge, so all of it is
there if and only if the definitions of one feature say the same.
-/
theorem merged_definitions (selected : mergeFiles tree folder = .ok files) (given : files ≠ []) :
    (∀ first second membersFirst membersSecond name, [first, second].Sublist files →
      Written tree first membersFirst →
      Written tree second membersSecond → name ∈ membersFirst.map (·.1) →
        name ∈ membersSecond.map (·.1) →
      ∃ error, mergeFolder tree folder = .error error) ∧
    ∀ merged count, mergeFolder tree folder = .ok (merged, count) → ∀ file ∈ files,
      ∃ members, Written tree file members ∧ StandsBy merged members ∧
        (Kept merged members ↔ Consistent members) := by
  constructor
  · intro first second membersFirst membersSecond name
    exact exists_error_of_shared selected
  · intro merged count done file listed
    obtain ⟨members, written, standsBy⟩ := standsBy_of_merged selected given done listed
    exact ⟨members, written, standsBy, standsBy.kept_iff⟩

def doubledText : String :=
  "\x7b\"os\": \x7b\"added\": \"3.0\"\x7d, \"os\": \x7b\"added\": \"3.1\"\x7d\x7d"

/-- A folder with one changelog, which defines a feature twice. -/
def doubledTree : FileTree :=
  { entries := [(["mods"], .folder), (["mods", "a.json"], .file (.ok doubledText))] }

theorem wellFormed_doubledTree : doubledTree.WellFormed := by
  decide

def doubledMembers : List (String × Record) :=
  [("os", { added := some "3.0" }), ("os", { added := some "3.1" })]

/-- The one file is read and merged, with the later definition. -/
theorem exists_merged_doubledTree :
    ∃ file merged, mergeFiles doubledTree "mods" = .ok [file] ∧
      Written doubledTree file doubledMembers ∧
      mergeFolder doubledTree "mods" = .ok (merged, 1) ∧
      merged.entries.map (fun entry => (entry.1, entry.2.added)) = [("os", some ⟨1, none⟩)] := by
  have reached : FileTree.Reaches doubledTree "mods" FileTree.linkLimit ["mods"] :=
    FileTree.reaches_folder (by decide) rfl
  have names : mergedNames doubledTree "mods" ["mods"] = ["a.json"] := by
    have isFile : doubledTree.isFile (Path.join "mods" "a.json") = true :=
      FileTree.isFile_iff.2 ⟨_, _, reached.look_file (by decide : Path.IsName "a.json") rfl⟩
    have taken : (Glob.endingIn ending).accepts "a.json" = true := by decide
    have all : doubledTree.names ["mods"] = ["a.json"] := by
      rw [FileTree.names_eq, List.mergeSort_of_pairwise (by decide)]
      decide
    simp only [mergedNames, all, List.filter_cons, List.filter_nil, taken, isFile, Bool.and_self,
      if_true]
  obtain ⟨path, standing, selected⟩ :=
    exists_mergeFiles wellFormed_doubledTree reached (by decide) (by decide)
  rw [names] at selected
  have content : doubledTree.read (Glob.below path "a.json") = .ok doubledText :=
    read_below reached standing (by decide) rfl
  have members : (Json.Reader.object Record.reader).parse doubledText = .ok doubledMembers := by
    apply eq_ok_of_toOption
    decide +kernel
  have holds : (parse doubledText).toOption.map (fun changelog =>
      changelog.entries.map fun entry => (entry.1, entry.2.added)) =
        some [("os", some ⟨1, none⟩)] := by
    decide +kernel
  obtain ⟨changelog, parsed, entries⟩ := Option.map_eq_some_iff.1 holds
  have reads : changelogAt doubledTree (Glob.below path "a.json") = .ok changelog := by
    rw [changelogAt, content]
    simp only [ofText, eq_ok_of_toOption parsed]
  obtain ⟨merged, done, whole⟩ :=
    mergeFolder_of_read selected (List.cons_ne_nil _ _) (.cons reads .nil)
    (List.pairwise_singleton _ _)
  have same : merged.entries = changelog.entries := whole.trans (List.append_nil _)
  exact ⟨_, merged, selected, ⟨doubledText, content, members⟩, done, same ▸ entries⟩

/-- The earlier of two definitions in one file is lost. -/
theorem merged_definitions_doubledTree :
    ∃ file merged, Written doubledTree file doubledMembers ∧
      mergeFolder doubledTree "mods" = .ok (merged, 1) ∧
      ¬ Kept merged doubledMembers := by
  obtain ⟨file, merged, selected, written, done, -⟩ := exists_merged_doubledTree
  obtain ⟨members, writtenHere, -, kept⟩ :=
    (merged_definitions selected (List.cons_ne_nil _ _)).2 merged 1 done file List.mem_cons_self
  rw [← written.unique writtenHere] at kept
  refine ⟨file, merged, written, done, fun all => ?_⟩
  have same := kept.1 all _ List.mem_cons_self _ (List.mem_cons_of_mem _ List.mem_cons_self) rfl
  exact absurd (congrArg Except.toOption same) (by decide)

/--
A feature that one file defines twice does not end the merge; its second definition is the one that
is left.
-/
theorem second_definition_replaces_first :
    ¬ (doubledMembers.map (·.1)).Nodup ∧
      ∃ file merged r, mergeFiles doubledTree "mods" = .ok [file] ∧
      Written doubledTree file doubledMembers ∧ mergeFolder doubledTree "mods" = .ok (merged, 1) ∧
      merged.get? "os" = some r ∧ r.added = some ⟨1, none⟩ := by
  obtain ⟨file, merged, selected, written, done, entries⟩ := exists_merged_doubledTree
  obtain ⟨⟨_, r⟩, only, same⟩ := List.map_eq_singleton_iff.1 entries
  obtain ⟨rfl, added⟩ := Prod.mk.inj same
  refine ⟨by decide, file, merged, r, selected, written, done, Table.get?_eq_some_iff.2 ?_, added⟩
  rw [only]
  exact List.mem_cons_self

end VersionFloor.Changelog
